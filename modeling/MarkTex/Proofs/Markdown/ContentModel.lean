import MarkTex.Convert.Source
import MarkTex.Proofs.Markdown.Conversion
import MarkTex.Proofs.Markdown.Separators

/-!
# The content model of converted documents

Which nodes an element may stand around is fixed by its kind, and for generic elements by its tag.
Where no raw HTML is read, every element of a converted document keeps to this, at every depth:
`fitsIn_convert` by induction on the tokens, and `document_wellFormed` in terms of parents and
children.
-/

namespace MarkTex.Markdown

/-! ## The model -/

/-- Nodes that may stand in a line of text. -/
def isPhrasing : Node → Bool
  | .text _ => true
  | .element kind tag _ _ =>
    kind ∈ [.bold, .italic, .inlineCode, .link, .image, .mathInline] ||
      kind = .generic && tag ∈ ["br", "del"]

/-- Nodes that may stand among blocks: all but those with a place of their own in lists and tables. -/
def isFlow : Node → Bool
  | .text _ => true
  | .element kind _ _ _ => kind ∉ [.listItem, .tableRow, .tableCell]

/-- What stands between two items of a list. -/
def gap (separator : Text) : List Node := if separator.isEmpty then [] else [.text separator]

/-- Items with one gap between each two, and none at the ends. -/
inductive ItemRow (separator : Text) : List Node → Prop
  | nil : ItemRow separator []
  | single {item : Node} : item.isOfKind .listItem → ItemRow separator [item]
  | cons {item : Node} {row : List Node} : item.isOfKind .listItem → row ≠ [] →
      ItemRow separator row → ItemRow separator (item :: (gap separator ++ row))

/-- What stands in an element is what its kind, or its tag, allows. -/
def FitsIn (separator : Text) : Node → Prop
  | .text _ => True
  | .element kind tag _ children =>
    match kind with
    | .unorderedList | .orderedList => ItemRow separator children
    | .listItem => ∀ c ∈ children, isFlow c
    | .table => ∀ c ∈ children, c.isOfKind .tableRow
    | .tableRow => ∀ c ∈ children, c.isOfKind .tableCell
    | .image => children = []
    | .inlineCode | .codeBlock | .mathInline | .mathBlock => ∃ content, children = [.text content]
    | .generic =>
      tag ∈ ["document", "blockquote"] ∧ (∀ c ∈ children, isFlow c) ∨
        tag ∈ ["hr", "br"] ∧ children = [] ∨
        tag ∈ ["del", "h5", "h6"] ∧ ∀ c ∈ children, isPhrasing c
    | .heading1 | .heading2 | .heading3 | .heading4 | .paragraph | .bold | .italic | .link
    | .tableCell => ∀ c ∈ children, isPhrasing c

/-- Which nodes may stand at a place. -/
def Place.admits : Place → Node → Bool
  | .block, n => isFlow n
  | .item, n => n.isOfKind .listItem
  | .part, n | .row, n => n.isOfKind .tableRow
  | .cell _, n => n.isOfKind .tableCell
  | .line, n => isPhrasing n

/-- What may stand in the element around a place. -/
def Place.Holds (separator : Text) : Place → List Node → Prop
  | .item, ns => ItemRow separator ns
  | p, ns => ∀ n ∈ ns, p.admits n

theorem isFlow_of_isPhrasing {n : Node} (h : isPhrasing n) : isFlow n := by
  cases n with
  | text content => rfl
  | element kind tag attrs children =>
      cases kind <;> simp_all [isPhrasing, isFlow]

/-! ## Separators fit in -/

theorem separate_cons_cons (separator : Text) (n n' : Node) (ns : List Node) :
    separate separator (n :: n' :: ns) =
      n :: (gap separator ++ separate separator (n' :: ns)) := by
  unfold separate gap
  split <;> rfl

theorem itemRow_separate {separator : Text} {ns : List Node}
    (h : ∀ n ∈ ns, n.isOfKind .listItem) : ItemRow separator (separate separator ns) := by
  induction ns with
  | nil => simpa [separate] using ItemRow.nil
  | cons n ns ih =>
      obtain ⟨hn, hns⟩ := List.forall_mem_cons.mp h
      cases ns with
      | nil => simpa [separate] using ItemRow.single hn
      | cons n' ns =>
          rw [separate_cons_cons]
          refine ItemRow.cons hn ?_ (ih hns)
          exact List.ne_nil_of_mem ((Spaced.separate separator _).sublist.subset List.mem_cons_self)

theorem holds_gather {separator : Text} {p : Place} {ps : List Produced}
    (h : ∀ n ∈ ps.flatMap Produced.nodes, p.admits n) :
    p.Holds separator (p.gather separator ps) := by
  cases p with
  | item => exact itemRow_separate h
  | block =>
      intro n hn
      rcases (Spaced.gather separator .block ps).mem hn with hn | rfl
      · exact h n hn
      · rfl
  | part | row | cell | line => exact h

/-! ## One token -/

/-- Nodes may stand at a place, and every node at or below them fits in. -/
structure FitsAt (separator : Text) (p : Place) (ns : List Node) : Prop where
  admitted : ∀ n ∈ ns, p.admits n
  below : ∀ n ∈ Node.forestNodes ns, FitsIn separator n

/-- An element fits at a place if it may stand there, what is in it may stand in it, and all below
fits in. -/
theorem FitsAt.element {separator : Text} {p : Place} {kind : ElementKind} {tag : String}
    {attrs : Attributes} {inner : List Node}
    (hadmits : p.admits (.element kind tag attrs inner))
    (hfits : FitsIn separator (.element kind tag attrs inner))
    (hbelow : ∀ n ∈ Node.forestNodes inner, FitsIn separator n) :
    FitsAt separator p [.element kind tag attrs inner] where
  admitted := by simpa using hadmits
  below := by simpa [Node.forestNodes, Node.descendants] using ⟨hfits, hbelow⟩

theorem fitsIn_of_mem_text {separator content : Text} {n : Node}
    (h : n ∈ Node.forestNodes [.text content]) : FitsIn separator n := by
  simp only [Node.forestNodes, Node.descendants, List.append_nil, List.mem_singleton] at h
  rw [h]
  trivial

theorem fitsAt_leaf {separator raw : Text} {p : Place} {kind : TokenKind} {n : Node}
    (h : LeafAt p kind raw n) : FitsAt separator p [n] := by
  cases h with
  | code | blockMath | codeSpan | inlineMath =>
      exact .element rfl ⟨_, rfl⟩ fun _ => fitsIn_of_mem_text
  | rule | lineBreak => exact .element rfl (by simp [FitsIn]) (by simp [Node.forestNodes])
  | text | softBreak =>
      exact ⟨by simp [Place.admits, isPhrasing], fun _ => fitsIn_of_mem_text⟩

theorem fitsAt_shell {separator : Text} {p q : Place} {kind : ElementKind} {tag : String}
    {attrs : Attributes} {inner : List Node} (h : ShellAt p q kind tag)
    (hholds : q.Holds separator inner)
    (hbelow : ∀ n ∈ Node.forestNodes inner, FitsIn separator n) :
    FitsAt separator p [.element kind tag attrs inner] := by
  cases h with
  | heading hmem =>
      simp only [headingElements, List.mem_cons, Prod.mk.injEq, List.not_mem_nil, or_false] at hmem
      rcases hmem with ⟨rfl, rfl⟩ | ⟨rfl, rfl⟩ | ⟨rfl, rfl⟩ | ⟨rfl, rfl⟩ | ⟨rfl, rfl⟩ | ⟨rfl, rfl⟩
      · exact .element rfl hholds hbelow
      · exact .element rfl hholds hbelow
      · exact .element rfl hholds hbelow
      · exact .element rfl hholds hbelow
      · exact .element rfl (Or.inr (Or.inr ⟨by simp, hholds⟩)) hbelow
      · exact .element rfl (Or.inr (Or.inr ⟨by simp, hholds⟩)) hbelow
  | quote => exact .element rfl (Or.inl ⟨by simp, hholds⟩) hbelow
  | list hlist => rcases hlist with rfl | rfl <;> exact .element rfl hholds hbelow
  | phrase hmem =>
      simp only [phraseElements, List.mem_cons, Prod.mk.injEq, List.not_mem_nil, or_false] at hmem
      rcases hmem with ⟨rfl, rfl⟩ | ⟨rfl, rfl⟩ | ⟨rfl, rfl⟩ | ⟨rfl, rfl⟩
      · exact .element rfl hholds hbelow
      · exact .element rfl hholds hbelow
      · exact .element rfl hholds hbelow
      · exact .element rfl (Or.inr (Or.inr ⟨by simp, hholds⟩)) hbelow
  | paragraph | table | listItem | headRow | bodyRow | cell => exact .element rfl hholds hbelow

/-! ## All tokens -/

namespace FitsAt

variable {separator : Text} {p : Place} {ns ms : List Node} {ps : List Produced}

theorem nil : FitsAt separator p [] := ⟨by simp, by simp [Node.forestNodes]⟩

theorem append (h : FitsAt separator p ns) (h' : FitsAt separator p ms) :
    FitsAt separator p (ns ++ ms) where
  admitted := List.forall_mem_append.mpr ⟨h.admitted, h'.admitted⟩
  below := by
    rw [Node.forestNodes_eq_flatMap, List.flatMap_append, ← Node.forestNodes_eq_flatMap,
      ← Node.forestNodes_eq_flatMap]
    exact List.forall_mem_append.mpr ⟨h.below, h'.below⟩

theorem below_gather (h : FitsAt separator p (ps.flatMap Produced.nodes)) :
    ∀ n ∈ Node.forestNodes (p.gather separator ps), FitsIn separator n := by
  rw [Node.forestNodes_eq_flatMap]
  intro n hn
  obtain ⟨root, hroot, hmem⟩ := List.mem_flatMap.mp hn
  rcases (Spaced.gather separator p ps).mem hroot with hroot | rfl
  · apply h.below n
    rw [Node.forestNodes_eq_flatMap]
    exact List.mem_flatMap.mpr ⟨root, hroot, hmem⟩
  · exact fitsIn_of_mem_text (by simpa [Node.forestNodes, Node.nodes] using hmem)

end FitsAt

variable {fragments : Text → List Node} {o : ParseOptions} {separator : Text}

/-- What a token becomes fits at its place if what the tokens inside it become fits in. -/
theorem fitsAt_form {raw : Text} {p : Place} {kind : TokenKind} {form : Form} {inner : List Node}
    (hat : FormAt o raw p kind form) (hfragment : ∀ raw trimmed, form ≠ .fragment raw trimmed)
    (hinner : ∀ q, p.inside kind = some q → q.Holds separator inner ∧
      ∀ n ∈ Node.forestNodes inner, FitsIn separator n) :
    FitsAt separator p (form.produce fragments inner).nodes := by
  cases hat with
  | nothing => exact FitsAt.nil
  | leaf hleaf => exact fitsAt_leaf hleaf
  | blockText =>
      obtain ⟨hholds, hbelow⟩ := hinner _ rfl
      exact ⟨fun n hn => isFlow_of_isPhrasing (hholds n hn), hbelow⟩
  | tableBody =>
      obtain ⟨hholds, hbelow⟩ := hinner _ rfl
      exact ⟨hholds, hbelow⟩
  | shell hinside hshell =>
      obtain ⟨hholds, hbelow⟩ := hinner _ hinside
      exact fitsAt_shell hshell hholds hbelow
  | image => exact FitsAt.element rfl rfl (by simp [Node.forestNodes])
  | fragment => exact absurd rfl (hfragment _ _)

theorem fitsAt_produceEach {p : Place} {ts : List Token} (h : NoFragments o (p.visitsEach ts)) :
    FitsAt o.blockSeparator p ((p.produceEach fragments o ts).flatMap Produced.nodes) := by
  induction ts using Token.forest_induction generalizing p with
  | nil => exact FitsAt.nil
  | cons kind raw attrs children ts hchildren hts =>
      obtain ⟨hfirst, hrest⟩ := List.forall_mem_append.mp h
      rw [Place.produceEach, List.flatMap_cons, Place.produce_mk]
      refine FitsAt.append ?_ (hts hrest)
      -- what stands inside the token holds by induction at the place that it stands in
      refine fitsAt_form (p.formAt o raw attrs kind) (hfirst _ List.mem_cons_self) ?_
      intro q hq
      have hin := hchildren (NoFragments.inside hq hfirst)
      rw [Place.convertInside_eq fragments o hq]
      exact ⟨holds_gather hin.admitted, hin.below_gather⟩

/-- Where no raw HTML is read, everything in the nodes of a forest fits in. -/
theorem fitsIn_convert (fragments : Text → List Node) {p : Place} {ts : List Token}
    (h : NoFragments o (p.visitsEach ts)) :
    p.Holds o.blockSeparator (p.convert fragments o ts) ∧
      ∀ n ∈ Node.forestNodes (p.convert fragments o ts), FitsIn o.blockSeparator n :=
  ⟨holds_gather (fitsAt_produceEach h).admitted, (fitsAt_produceEach h).below_gather⟩

/-! ## Parents and children -/

/-- Whether a node is a list. -/
def isList (n : Node) : Prop := n.isOfKind .orderedList ∨ n.isOfKind .unorderedList

/-- The shape of a document: which nodes stand in which elements, at every depth. -/
structure WellFormed (separator : Text) (t : Node) : Prop where
  root : t.isOfKind .generic
  inList : ∀ n ∈ t.nodes, isList n → ItemRow separator n.children
  itemParent : ∀ n ∈ t.nodes, ∀ c ∈ n.children, c.isOfKind .listItem → isList n
  inTable : ∀ n ∈ t.nodes, n.isOfKind .table → ∀ c ∈ n.children, c.isOfKind .tableRow
  rowParent : ∀ n ∈ t.nodes, ∀ c ∈ n.children, c.isOfKind .tableRow → n.isOfKind .table
  inRow : ∀ n ∈ t.nodes, n.isOfKind .tableRow → ∀ c ∈ n.children, c.isOfKind .tableCell
  cellParent : ∀ n ∈ t.nodes, ∀ c ∈ n.children, c.isOfKind .tableCell → n.isOfKind .tableRow
  inImage : ∀ n ∈ t.nodes, n.isOfKind .image → n.children = []
  inVerbatim : ∀ n ∈ t.nodes, n.isOfKind .codeBlock ∨ n.isOfKind .inlineCode ∨
    n.isOfKind .mathInline ∨ n.isOfKind .mathBlock → ∃ content, n.children = [.text content]
  genericTag : ∀ tag attrs children, .element .generic tag attrs children ∈ t.nodes →
    tag ∈ ["document", "blockquote", "hr", "br", "del", "h5", "h6"]

theorem ItemRow.mem {ns : List Node} (h : ItemRow separator ns) {c : Node} (hc : c ∈ ns) :
    c.isOfKind .listItem ∨ c = .text separator := by
  induction h with
  | nil => cases hc
  | single hitem => exact Or.inl (List.mem_singleton.mp hc ▸ hitem)
  | cons hitem _ _ ih =>
      rcases List.mem_cons.mp hc with rfl | hc
      · exact Or.inl hitem
      · rcases List.mem_append.mp hc with hc | hc
        · unfold gap at hc
          split at hc
          · cases hc
          · exact Or.inr (List.mem_singleton.mp hc)
        · exact ih hc

/-- A child of an element that fits in may stand among blocks, or has its own place there. -/
theorem FitsIn.child {n c : Node} (h : FitsIn separator n) (hc : c ∈ n.children) :
    isFlow c ∨ (isList n ∧ c.isOfKind .listItem) ∨
      (n.isOfKind .table ∧ c.isOfKind .tableRow) ∨
        (n.isOfKind .tableRow ∧ c.isOfKind .tableCell) := by
  cases n with
  | text content => cases hc
  | element kind tag attrs children =>
      cases kind with
      | unorderedList =>
          rcases ItemRow.mem h hc with hitem | rfl
          · exact Or.inr (Or.inl ⟨Or.inr rfl, hitem⟩)
          · exact Or.inl rfl
      | orderedList =>
          rcases ItemRow.mem h hc with hitem | rfl
          · exact Or.inr (Or.inl ⟨Or.inl rfl, hitem⟩)
          · exact Or.inl rfl
      | listItem => exact Or.inl (h c hc)
      | table => exact Or.inr (Or.inr (Or.inl ⟨rfl, h c hc⟩))
      | tableRow => exact Or.inr (Or.inr (Or.inr ⟨rfl, h c hc⟩))
      | image =>
          have hnil : children = [] := h
          rw [Node.children, hnil] at hc
          cases hc
      | inlineCode | codeBlock | mathInline | mathBlock =>
          obtain ⟨content, hchildren⟩ := h
          rw [Node.children, hchildren, List.mem_singleton] at hc
          exact Or.inl (hc ▸ rfl)
      | generic =>
          rcases h with ⟨_, hflow⟩ | ⟨_, hnil⟩ | ⟨_, hphrasing⟩
          · exact Or.inl (hflow c hc)
          · rw [Node.children, hnil] at hc
            cases hc
          · exact Or.inl (isFlow_of_isPhrasing (hphrasing c hc))
      | heading1 | heading2 | heading3 | heading4 | paragraph | bold | italic | link | tableCell =>
          exact Or.inl (isFlow_of_isPhrasing (h c hc))

/-- A node with a place of its own stands in the parent that has that place. -/
theorem FitsIn.parent {n c : Node} (h : FitsIn separator n) (hc : c ∈ n.children) :
    (c.isOfKind .listItem → isList n) ∧ (c.isOfKind .tableRow → n.isOfKind .table) ∧
      (c.isOfKind .tableCell → n.isOfKind .tableRow) := by
  cases c with
  | text content =>
      refine ⟨?_, ?_, ?_⟩ <;>
        · intro hkind
          cases hkind
  | element kind tag attrs children =>
      have hchild := h.child hc
      simp only [isFlow, Node.isOfKind, decide_eq_true_eq] at hchild ⊢
      rcases hchild with hflow | ⟨hn, rfl⟩ | ⟨hn, rfl⟩ | ⟨hn, rfl⟩
      · simp only [List.mem_cons, List.not_mem_nil, or_false, not_or] at hflow
        exact ⟨fun hkind => absurd hkind hflow.1, fun hkind => absurd hkind hflow.2.1,
          fun hkind => absurd hkind hflow.2.2⟩
      · exact ⟨fun _ => hn, fun hkind => absurd hkind (by decide),
          fun hkind => absurd hkind (by decide)⟩
      · exact ⟨fun hkind => absurd hkind (by decide), fun _ => hn,
          fun hkind => absurd hkind (by decide)⟩
      · exact ⟨fun hkind => absurd hkind (by decide), fun hkind => absurd hkind (by decide),
          fun _ => hn⟩

theorem wellFormed_of_fitsIn {t : Node} (hroot : t.isOfKind .generic)
    (h : ∀ n ∈ t.nodes, FitsIn separator n) : WellFormed separator t where
  root := hroot
  inList n hn hlist := by
    rcases hlist with hkind | hkind <;>
      · obtain ⟨tag, attrs, children, rfl⟩ := Node.exists_eq_element hkind
        exact h _ hn
  itemParent n hn c hc := ((h n hn).parent hc).1
  inTable n hn hkind := by
    obtain ⟨tag, attrs, children, rfl⟩ := Node.exists_eq_element hkind
    exact h _ hn
  rowParent n hn c hc := ((h n hn).parent hc).2.1
  inRow n hn hkind := by
    obtain ⟨tag, attrs, children, rfl⟩ := Node.exists_eq_element hkind
    exact h _ hn
  cellParent n hn c hc := ((h n hn).parent hc).2.2
  inImage n hn hkind := by
    obtain ⟨tag, attrs, children, rfl⟩ := Node.exists_eq_element hkind
    exact h _ hn
  inVerbatim n hn hkind := by
    rcases hkind with hkind | hkind | hkind | hkind <;>
      · obtain ⟨tag, attrs, children, rfl⟩ := Node.exists_eq_element hkind
        exact h _ hn
  genericTag tag attrs children hn := by
    have hsubset : ["document", "blockquote"] ++ ["hr", "br"] ++ ["del", "h5", "h6"] ⊆
        ["document", "blockquote", "hr", "br", "del", "h5", "h6"] := fun _ => id
    simp only [List.append_subset] at hsubset
    rcases h _ hn with ⟨htag, _⟩ | ⟨htag, _⟩ | ⟨htag, _⟩
    · exact hsubset.1.1 htag
    · exact hsubset.1.2 htag
    · exact hsubset.2 htag

theorem fitsIn_plainDocument {ts : List Token} (h : NoFragments o (Place.block.visitsEach ts)) :
    ∀ n ∈ (plainDocument o ts).nodes, FitsIn o.blockSeparator n := by
  obtain ⟨hflow, hbelow⟩ := fitsIn_convert (fun _ => []) h
  exact List.forall_mem_cons.mpr ⟨Or.inl ⟨by simp, hflow⟩, hbelow⟩

variable {m : Type → Type} [Monad m] [LawfulMonad m]

/-- Without raw HTML, every forest becomes a well-formed document: tokens of any kind in any place. -/
theorem document_wellFormed (fx : Reading m) (hhtml : o.parseHtml = false) (ts : List Token) :
    ∃ root, Yields fx (document fx o ts) root ∧ WellFormed o.blockSeparator root := by
  have hnone : NoFragments o (Place.block.visitsEach ts) := NoFragments.of_parseHtml hhtml _
  exact ⟨plainDocument o ts, yields_plainDocument hnone,
    wellFormed_of_fitsIn rfl (fitsIn_plainDocument hnone)⟩

/-- A quote with a list and a table in which some tokens are out of place, and raw HTML before it. -/
def disorderedForest : List Token :=
  [.leaf .blockHtml "<li>".toList,
   .branch .blockQuote
    [.branch .list
      [.branch .listItem [.branch .blockText [.leaf .text "one".toList], .leaf .listItem []],
       .leaf .text "stray".toList,
       .branch .listItem [.leaf .blockCode "two\n".toList]],
     .branch .table
      [.branch .tableHead [.branch .tableCell [.leaf .inlineMath "x".toList], .branch .paragraph []],
       .branch .tableBody [.branch .list [.branch .tableCell [.branch .image []]]]]]]

theorem disorderedForest_wellFormed : ∃ root,
    Yields Action.reading (document Action.reading { parseHtml := false } disorderedForest) root ∧
      WellFormed (Text.ofString "\n") root :=
  document_wellFormed Action.reading rfl disorderedForest

end MarkTex.Markdown
