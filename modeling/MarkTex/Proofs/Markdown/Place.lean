import MarkTex.Document.OfTokens
import MarkTex.Document.Place

/-!
# What tokens become at their places

Where a token stands and what kind it is of decide what it becomes and in which place the tokens inside
it stand; `Place.form` and `Place.inside` are these two tables. `Place.convert` is the conversion by the
tables, one recursion for all places, and `FormAt` lists the rows of the table of forms.
-/

namespace MarkTex.Markdown

/-! ## Tokens that are visited -/

/-- What is visited is in the forest. -/
theorem Place.mem_forest_of_mem_visitsEach {p : Place} {ts : List Token} {v : Place × Token}
    (h : v ∈ p.visitsEach ts) : v.2 ∈ Token.forest ts := by
  induction ts using Token.forest_induction generalizing p with
  | nil => cases h
  | cons kind raw attrs children ts hchildren hts =>
      rw [Token.forest, Token.tokens]
      rw [visitsEach, visits, List.cons_append] at h
      rcases List.mem_cons.mp h with rfl | h
      · exact List.mem_cons_self
      · rcases List.mem_append.mp h with hin | hrest
        · split at hin
          next q _ =>
            exact List.mem_cons_of_mem _ (List.mem_append_left _ (hchildren hin))
          next => cases hin
        · exact List.mem_cons_of_mem _ (List.mem_append_right _ (hts hrest))

theorem Place.mem_visits_of_inside {p q : Place} {kind : TokenKind} {raw : Text}
    {attrs : TokenAttributes} {children : List Token} {v : Place × Token}
    (hq : p.inside kind = some q) (h : v ∈ q.visitsEach children) :
    v ∈ p.visits (.mk kind raw attrs children) := by
  rw [visits, hq]
  exact List.mem_cons_of_mem _ h

/-! ## What tokens become -/

/-- What a token becomes at its place. -/
inductive Form where
  /-- Nothing. -/
  | nothing
  /-- A node of its own. -/
  | leaf (n : Node)
  /-- The nodes of the tokens inside it. -/
  | splice
  /-- An element around the nodes of the tokens inside it. -/
  | shell (kind : ElementKind) (tag : String) (attributes : Attributes)
  /-- An image, described by the text of the tokens inside it. -/
  | image (attributes : TokenAttributes)
  /-- The nodes of a fragment of raw HTML, without the blank ones at its ends if they do not count. -/
  | fragment (raw : Text) (trimmed : Bool)

/-- An element around the nodes of the tokens inside, like a given one. -/
def Form.around : Node → Form
  | .text _ => nothing
  | .element kind tag attrs _ => shell kind tag attrs

/-- What a token becomes at a place. -/
def Place.form (o : ParseOptions) (raw : Text) (attrs : TokenAttributes) :
    Place → TokenKind → Form
  | .block, .heading => .around (headingNode attrs.level [])
  | .block, .paragraph => .shell .paragraph "p" []
  | .block, .blockText => .splice
  | .block, .blockCode => .leaf (codeNode raw attrs.info)
  | .block, .blockQuote => .shell .generic "blockquote" []
  | .block, .list => .around (listNode [] attrs [])
  | .block, .table => .shell .table "table" []
  | .block, .thematicBreak => .leaf (Node.generic "hr" [])
  | .block, .blockHtml => if o.parseHtml then .fragment raw true else .nothing
  | .block, .blockMath => .leaf (Node.ofKind .mathBlock [.text raw] [])
  | .item, .listItem => .shell .listItem "li" []
  | .part, .tableHead => .shell .tableRow "tr" []
  | .part, .tableBody => .splice
  | .row, _ => .shell .tableRow "tr" []
  | .cell header, .tableCell => .around (cellNode header attrs [])
  | .line, .text => .leaf (.text (decodeReferences raw))
  | .line, .strong => .shell .bold "strong" []
  | .line, .emphasis => .shell .italic "em" []
  | .line, .codeSpan => .leaf (Node.ofKind .inlineCode [.text raw] [])
  | .line, .link => .shell .link "a" (("href", attrs.url) :: titleAttribute attrs)
  | .line, .image => .image attrs
  | .line, .softBreak => .leaf (.text (Text.ofString "\n"))
  | .line, .lineBreak => .leaf (Node.generic "br" [])
  | .line, .strikethrough => .shell .generic "del" []
  | .line, .inlineHtml =>
    if o.parseHtml then if isKeptInline raw then .fragment raw false else .nothing else .nothing
  | .line, .inlineMath => .leaf (Node.ofKind .mathInline [.text raw] [])
  | _, _ => .nothing

/-- The nodes that a token leaves. -/
def Produced.nodes : Produced → List Node
  | nothing => []
  | run nodes => nodes
  | block nodes => nodes

/-- What a token leaves, given how fragments are read and the nodes of the tokens inside it. -/
def Form.produce (fragments : Text → List Node) (inner : List Node) : Form → Produced
  | nothing => .nothing
  | leaf n => .block [n]
  | splice => .run inner
  | shell kind tag attrs => .block [.element kind tag attrs inner]
  | image attrs => .block [Node.ofKind .image []
      (("src", attrs.url) :: ("alt", some (textOfAll inner)) :: titleAttribute attrs)]
  | fragment raw trimmed =>
    .block (if trimmed then trimBlankNodes (fragments raw) else fragments raw)

/-- What the tokens of a place leave as one list of nodes: blocks and items have separators. -/
def Place.gather (separator : Text) (ps : List Produced) : Place → List Node
  | block => assemble separator ps
  | item => separate separator (ps.flatMap Produced.nodes)
  | _ => ps.flatMap Produced.nodes

variable (fragments : Text → List Node) (o : ParseOptions)

mutual

/-- What a token leaves at a place. -/
def Place.produce (p : Place) : Token → Produced
  | .mk kind raw attrs children =>
    (p.form o raw attrs kind).produce fragments
      (match p.inside kind with
      | some q => q.gather o.blockSeparator (q.produceEach children)
      | none => [])

/-- What each token of a forest leaves at a place. -/
def Place.produceEach (p : Place) : List Token → List Produced
  | [] => []
  | t :: ts => p.produce t :: p.produceEach ts

end

/-- The nodes of a forest at a place. -/
def Place.convert (p : Place) (ts : List Token) : List Node :=
  p.gather o.blockSeparator (p.produceEach fragments o ts)

/-- The nodes of the tokens inside a token at a place. -/
def Place.convertInside (p : Place) (kind : TokenKind) (children : List Token) : List Node :=
  match p.inside kind with
  | some q => q.convert fragments o children
  | none => []

theorem Place.convertInside_eq {p q : Place} {kind : TokenKind} (h : p.inside kind = some q)
    (children : List Token) :
    p.convertInside fragments o kind children = q.convert fragments o children := by
  rw [convertInside, h]

theorem Place.produce_mk (p : Place) (kind : TokenKind) (raw : Text) (attrs : TokenAttributes)
    (children : List Token) :
    p.produce fragments o (.mk kind raw attrs children) =
      (p.form o raw attrs kind).produce fragments (p.convertInside fragments o kind children) := by
  rw [produce]
  rfl

/-! ## What the table holds -/

/-- The elements of headings, by kind and tag. -/
def headingElements : List (ElementKind × String) :=
  [(.heading1, "h1"), (.heading2, "h2"), (.heading3, "h3"), (.heading4, "h4"), (.generic, "h5"),
   (.generic, "h6")]

/-- The elements around a part of a line of text, by kind and tag. -/
def phraseElements : List (ElementKind × String) :=
  [(.bold, "strong"), (.italic, "em"), (.link, "a"), (.generic, "del")]

/-- At a place, an element of a kind and a tag stands around what another place holds. -/
inductive ShellAt : Place → Place → ElementKind → String → Prop
  | heading {kind : ElementKind} {tag : String} :
      (kind, tag) ∈ headingElements → ShellAt .block .line kind tag
  | paragraph : ShellAt .block .line .paragraph "p"
  | quote : ShellAt .block .block .generic "blockquote"
  | list {kind : ElementKind} {tag : String} :
      kind = .orderedList ∨ kind = .unorderedList → ShellAt .block .item kind tag
  | table : ShellAt .block .part .table "table"
  | listItem : ShellAt .item .block .listItem "li"
  | headRow : ShellAt .part (.cell true) .tableRow "tr"
  | bodyRow : ShellAt .row (.cell false) .tableRow "tr"
  | cell {header : Bool} {tag : String} : ShellAt (.cell header) .line .tableCell tag
  | phrase {kind : ElementKind} {tag : String} :
      (kind, tag) ∈ phraseElements → ShellAt .line .line kind tag

/-- The kinds of elements that never stand around the nodes of tokens. -/
def closedKinds : List ElementKind := [.inlineCode, .codeBlock, .mathInline, .mathBlock, .image]

theorem ShellAt.not_mem_closedKinds {p q : Place} {kind : ElementKind} {tag : String}
    (h : ShellAt p q kind tag) : kind ∉ closedKinds := by
  have hopen : ∀ element ∈ headingElements ++ phraseElements, element.1 ∉ closedKinds := by decide
  cases h with
  | heading hmem => exact hopen _ (List.mem_append_left _ hmem)
  | list hlist => rcases hlist with rfl | rfl <;> decide
  | phrase hmem => exact hopen _ (List.mem_append_right _ hmem)
  | paragraph | quote | table | listItem | headRow | bodyRow | cell => decide

/-- At a place, a token of a kind with a raw text becomes a node of its own. -/
inductive LeafAt : Place → TokenKind → Text → Node → Prop
  | code {raw : Text} (attrs : Attributes) : LeafAt .block .blockCode raw
      (Node.ofKind .codeBlock [.text (dropFinalNewline raw)] attrs)
  | rule {raw : Text} : LeafAt .block .thematicBreak raw (Node.generic "hr" [])
  | blockMath {raw : Text} : LeafAt .block .blockMath raw (Node.ofKind .mathBlock [.text raw] [])
  | text {raw : Text} : LeafAt .line .text raw (.text (decodeReferences raw))
  | codeSpan {raw : Text} : LeafAt .line .codeSpan raw (Node.ofKind .inlineCode [.text raw] [])
  | softBreak {raw : Text} : LeafAt .line .softBreak raw (.text (Text.ofString "\n"))
  | lineBreak {raw : Text} : LeafAt .line .lineBreak raw (Node.generic "br" [])
  | inlineMath {raw : Text} : LeafAt .line .inlineMath raw (Node.ofKind .mathInline [.text raw] [])

/-- A token with a node of its own has no place for the tokens inside it. -/
theorem LeafAt.inside {p : Place} {kind : TokenKind} {raw : Text} {n : Node}
    (h : LeafAt p kind raw n) : p.inside kind = none := by
  cases h <;> rfl

/-- What a token of a kind with a raw text becomes at a place, row by row. -/
inductive FormAt (o : ParseOptions) (raw : Text) : Place → TokenKind → Form → Prop
  | nothing {p : Place} {kind : TokenKind} : p.inside kind = none →
      (∀ n, ¬ LeafAt p kind raw n) → FormAt o raw p kind .nothing
  | leaf {p : Place} {kind : TokenKind} {n : Node} :
      LeafAt p kind raw n → FormAt o raw p kind (.leaf n)
  | blockText : FormAt o raw .block .blockText .splice
  | tableBody : FormAt o raw .part .tableBody .splice
  | shell {p q : Place} {kind : TokenKind} {element : ElementKind} {tag : String}
      {attrs : Attributes} : p.inside kind = some q → ShellAt p q element tag →
      FormAt o raw p kind (.shell element tag attrs)
  | image {attrs : TokenAttributes} : FormAt o raw .line .image (.image attrs)
  | fragment {p : Place} {kind : TokenKind} {trimmed : Bool} : o.parseHtml = true →
      kind = .blockHtml ∨ kind = .inlineHtml → FormAt o raw p kind (.fragment raw trimmed)

theorem around_headingNode (level : Option Int) : ∃ element tag,
    (element, tag) ∈ headingElements ∧
      Form.around (headingNode level []) = .shell element tag [] := by
  unfold headingNode
  split
  next => exact ⟨.heading2, "h2", by simp [headingElements], rfl⟩
  next => exact ⟨.heading3, "h3", by simp [headingElements], rfl⟩
  next => exact ⟨.heading4, "h4", by simp [headingElements], rfl⟩
  next => exact ⟨.generic, "h5", by simp [headingElements], rfl⟩
  next => exact ⟨.generic, "h6", by simp [headingElements], rfl⟩
  next => exact ⟨.heading1, "h1", by simp [headingElements], rfl⟩

theorem around_listNode (attrs : TokenAttributes) : ∃ element tag attributes,
    (element = .orderedList ∨ element = .unorderedList) ∧
      Form.around (listNode [] attrs []) = .shell element tag attributes := by
  unfold listNode
  split
  · cases attrs.start <;> exact ⟨_, _, _, Or.inl rfl, rfl⟩
  · exact ⟨_, _, _, Or.inr rfl, rfl⟩

theorem Place.formAt (p : Place) (o : ParseOptions) (raw : Text) (attrs : TokenAttributes)
    (kind : TokenKind) : FormAt o raw p kind (p.form o raw attrs kind) := by
  unfold Place.form
  split
  · obtain ⟨element, tag, hmem, heq⟩ := around_headingNode attrs.level
    rw [heq]
    exact .shell rfl (.heading hmem)
  · exact .shell rfl .paragraph
  · exact .blockText
  · exact .leaf (.code _)
  · exact .shell rfl .quote
  · obtain ⟨element, tag, attributes, hlist, heq⟩ := around_listNode attrs
    rw [heq]
    exact .shell rfl (.list hlist)
  · exact .shell rfl .table
  · exact .leaf .rule
  · split
    next hhtml => exact .fragment hhtml (Or.inl rfl)
    next => exact .nothing rfl nofun
  · exact .leaf .blockMath
  · exact .shell rfl .listItem
  · exact .shell rfl .headRow
  · exact .tableBody
  · exact .shell rfl .bodyRow
  · exact .shell rfl .cell
  · exact .leaf .text
  · exact .shell rfl (.phrase (by simp [phraseElements]))
  · exact .shell rfl (.phrase (by simp [phraseElements]))
  · exact .leaf .codeSpan
  · exact .shell rfl (.phrase (by simp [phraseElements]))
  · exact .image
  · exact .leaf .softBreak
  · exact .leaf .lineBreak
  · exact .shell rfl (.phrase (by simp [phraseElements]))
  · split
    next hhtml =>
      split
      · exact .fragment hhtml (Or.inr rfl)
      · exact .nothing rfl nofun
    next => exact .nothing rfl nofun
  · exact .leaf .inlineMath
  · refine .nothing ?_ ?_
    · unfold Place.inside
      split <;> simp_all
    · rintro n (_ | _ | _ | _ | _ | _ | _ | _) <;> simp_all

end MarkTex.Markdown
