import MarkTex.Proofs.Convert.Looks
import MarkTex.Proofs.Markdown.OpeningTag
import MarkTex.Proofs.Markdown.Place

/-!
# Tokens that leave no trace

Some tokens are dropped where they stand: blank lines, kinds without a place, and raw HTML that is not
read. A conversion goes as if they were not there, at any depth, with the same nodes or the same
failure: `nodes_erase`. In particular raw HTML has no influence when it is not to be read.
-/

namespace MarkTex.Markdown

/-! ## Forests without some of their tokens -/

/-- The kinds of tokens that are converted among blocks. -/
def blockKinds : List TokenKind :=
  [.heading, .paragraph, .blockText, .blockCode, .blockQuote, .list, .table, .thematicBreak,
   .blockHtml, .blockMath]

/-- The kinds of tokens that are converted in a line of text. -/
def lineKinds : List TokenKind :=
  [.text, .strong, .emphasis, .codeSpan, .link, .image, .softBreak, .lineBreak, .strikethrough,
   .inlineHtml, .inlineMath]

/-- Whether a token of a kind with a raw text is dropped at a place: among blocks and in a line, if
its kind is not converted there or it is raw HTML that is not read. -/
def Place.drops (o : ParseOptions) : Place → TokenKind → Text → Bool
  | .block, kind, _ => kind ∉ blockKinds || kind = .blockHtml && !o.parseHtml
  | .line, kind, raw => kind ∉ lineKinds || kind = .inlineHtml && !(o.parseHtml && OpensKeptTag raw)
  | _, _, _ => false

mutual

/-- A token at a place, without the tokens inside it for which a test holds. -/
def Place.thin (test : Place → TokenKind → Text → Bool) (p : Place) : Token → Token
  | .mk kind raw attrs children =>
    .mk kind raw attrs <|
      match p.inside kind with
      | some q => q.without test children
      | none => children

/-- A forest without the tokens for which a test holds, at a place and at the places inside. -/
def Place.without (test : Place → TokenKind → Text → Bool) (p : Place) : List Token → List Token
  | [] => []
  | t :: ts =>
    if test p t.kind t.raw then p.without test ts else p.thin test t :: p.without test ts

end

/-- A forest without the tokens that are dropped. -/
def Place.erase (o : ParseOptions) (p : Place) (ts : List Token) : List Token :=
  p.without (Place.drops o) ts

/-- Whether a token among blocks or in a line is raw HTML. -/
def Place.isRawHtml (p : Place) (kind : TokenKind) (_ : Text) : Bool :=
  (p = .block || p = .line) && (kind = .blockHtml || kind = .inlineHtml)

/-! ## The conversion without the tokens that are dropped -/

/-- The nodes before a row of block tokens with those that the row leaves. -/
def nodesFrom (o : ParseOptions) (before : List Node) (ts : List Token) : Action (List Node) := do
  let ps ← blocks Action.reading o ts
  return ps.foldl (Produced.addTo o.blockSeparator) before

theorem nodesFrom_cons (o : ParseOptions) (before : List Node) (t : Token) (ts : List Token) :
    nodesFrom o before (t :: ts) = (do
      let p ← block Action.reading o t
      nodesFrom o (p.addTo o.blockSeparator before) ts) := by
  simp [nodesFrom, blocks]

/-- At every place the conversion of a forest agrees with that of the forest without some tokens. -/
structure SameWithout (V : HostView) (o : ParseOptions) (test : Place → TokenKind → Text → Bool)
    (ts : List Token) : Prop where
  blocks (before : List Node) :
    Action.Agree V (nodesFrom o before ts) (nodesFrom o before (Place.block.without test ts))
  items : Action.Agree V (listItems Action.reading o ts)
    (listItems Action.reading o (Place.item.without test ts))
  parts : Action.Agree V (tableSections Action.reading o ts)
    (tableSections Action.reading o (Place.part.without test ts))
  rows : Action.Agree V (tableRows Action.reading o ts)
    (tableRows Action.reading o (Place.row.without test ts))
  cells (header : Bool) : Action.Agree V (tableCells Action.reading o header ts)
    (tableCells Action.reading o header ((Place.cell header).without test ts))
  line : Action.Agree V (inlines Action.reading o ts)
    (inlines Action.reading o (Place.line.without test ts))

variable {V : HostView} {o : ParseOptions} {test : Place → TokenKind → Text → Bool}
variable {kind : TokenKind} {raw : Text} {attrs : TokenAttributes} {children ts : List Token}

theorem Place.without_cons_kept {p : Place} (h : ¬ test p kind raw) :
    p.without test (.mk kind raw attrs children :: ts) =
      p.thin test (.mk kind raw attrs children) :: p.without test ts := by
  rw [Place.without]
  exact if_neg h

theorem agree_block_dropped (h : Place.block.drops o kind raw) :
    Action.Agree V (block Action.reading o (.mk kind raw attrs children)) (pure .nothing) := by
  cases kind with
  | heading | paragraph | blockText | blockCode | blockQuote | list | table | thematicBreak
  | blockMath => simp [Place.drops, blockKinds] at h
  | blockHtml =>
      have hhtml : o.parseHtml = false := by simpa [Place.drops, blockKinds] using h
      simp only [block, hhtml, Bool.false_eq_true, if_false]
      exact (Action.agree_remark _).skip (Action.Agree.pure _)
  | blankLine => exact Action.Agree.pure _
  | _ => exact (Action.agree_remark _).skip (Action.Agree.pure _)

theorem agree_inline_dropped (h : Place.line.drops o kind raw) :
    Action.Agree V (inline Action.reading o (.mk kind raw attrs children)) (pure []) := by
  cases kind with
  | text | strong | emphasis | codeSpan | link | image | softBreak | lineBreak | strikethrough
  | inlineMath => simp [Place.drops, lineKinds] at h
  | inlineHtml =>
      simp only [inline]
      split
      next hhtml =>
        have hkept : ¬ isKeptInline raw := by
          rw [isKeptInline_iff]
          simpa [Place.drops, lineKinds, hhtml] using h
        rw [if_neg hkept]
        exact (Action.agree_remark _).skip (Action.Agree.pure _)
      next => exact Action.Agree.pure _
  | _ => exact (Action.agree_remark _).skip (Action.Agree.pure _)

theorem agree_block_kept (hin : SameWithout V o test children) :
    Action.Agree V (block Action.reading o (.mk kind raw attrs children))
      (block Action.reading o (Place.block.thin test (.mk kind raw attrs children))) := by
  cases kind with
  | heading | paragraph | blockText => exact hin.line.map
  | blockQuote =>
      have hquote (cs : List Token) : block Action.reading o (.mk .blockQuote raw attrs cs) = (do
          let ns ← nodesFrom o [] cs
          return .block [Node.generic "blockquote" ns]) := by
        simp [block, nodesFrom, assemble]
      rw [Place.thin, hquote, hquote]
      exact (hin.blocks []).map
  | list => exact hin.items.map
  | table => exact hin.parts.map
  | blockHtml =>
      simp only [Place.thin, block]
      split
      · exact (Action.looks_readFragment raw).map
      · exact (Action.agree_remark _).looks.map
  | blockCode | thematicBreak | blockMath | blankLine => exact Action.Agree.pure _
  | _ => exact (Action.agree_remark _).looks.map

theorem agree_inline_kept (hin : SameWithout V o test children) :
    Action.Agree V (inline Action.reading o (.mk kind raw attrs children))
      (inline Action.reading o (Place.line.thin test (.mk kind raw attrs children))) := by
  cases kind with
  | strong | emphasis | link | image | strikethrough => exact hin.line.map
  | inlineHtml =>
      simp only [Place.thin, inline]
      split
      · split
        · exact Action.looks_readFragment raw
        · exact (Action.agree_remark _).looks.map
      · exact Action.Agree.pure _
  | text | codeSpan | softBreak | lineBreak | inlineMath => exact Action.Agree.pure _
  | _ => exact (Action.agree_remark _).looks.map

/-- One more token at the front of a forest. -/
theorem SameWithout.cons (htest : ∀ p kind raw, test p kind raw → Place.drops o p kind raw)
    (hin : SameWithout V o test children) (hts : SameWithout V o test ts) :
    SameWithout V o test (.mk kind raw attrs children :: ts) where
  blocks before := by
    rw [nodesFrom_cons, Place.without]
    split
    next hdropped =>
      have hnothing : Action.Agree V (block Action.reading o (.mk kind raw attrs children))
          (pure .nothing) := agree_block_dropped (htest .block kind raw hdropped)
      have hrest := hnothing.bind fun p => hts.blocks (p.addTo o.blockSeparator before)
      rwa [pure_bind] at hrest
    next =>
      rw [nodesFrom_cons]
      exact (agree_block_kept hin).bind fun p => hts.blocks (p.addTo o.blockSeparator before)
  items := by
    rw [Place.without_cons_kept (mt (htest .item kind raw) Bool.false_ne_true)]
    by_cases hkind : kind = .listItem
    · subst hkind
      have hitem (cs ts : List Token) :
          listItems Action.reading o (.mk .listItem raw attrs cs :: ts) = (do
            let inner ← nodesFrom o [] cs
            let ns ← listItems Action.reading o ts
            return Node.ofKind .listItem inner [] :: ns) := by
        simp [listItems, nodesFrom, assemble]
      rw [Place.thin, hitem, hitem]
      exact (hin.blocks []).bind fun inner => hts.items.map
    · simp only [Place.thin, listItems, if_neg hkind]
      exact hts.items
  parts := by
    rw [Place.without_cons_kept (mt (htest .part kind raw) Bool.false_ne_true)]
    cases kind with
    | tableHead => exact (hin.cells true).bind fun cells => hts.parts.map
    | tableBody => exact hin.rows.bind fun rows => hts.parts.map
    | _ => exact hts.parts
  rows := by
    rw [Place.without_cons_kept (mt (htest .row kind raw) Bool.false_ne_true)]
    exact (hin.cells false).bind fun cells => hts.rows.map
  cells header := by
    rw [Place.without_cons_kept (mt (htest (.cell header) kind raw) Bool.false_ne_true)]
    by_cases hkind : kind = .tableCell
    · subst hkind
      exact hin.line.bind fun cs => (hts.cells header).map
    · simp only [Place.thin, tableCells, if_neg hkind]
      exact hts.cells header
  line := by
    rw [Place.without]
    split
    next hdropped =>
      have hnothing : Action.Agree V (inline Action.reading o (.mk kind raw attrs children))
          (pure []) := agree_inline_dropped (htest .line kind raw hdropped)
      have hrest := hnothing.bind fun ns => hts.line.map (f := fun rest => ns ++ rest)
      rw [pure_bind] at hrest
      simpa [inlines] using hrest
    next =>
      exact (agree_inline_kept hin).bind fun ns => hts.line.map

theorem sameWithout (htest : ∀ p kind raw, test p kind raw → Place.drops o p kind raw)
    (ts : List Token) : SameWithout V o test ts := by
  induction ts using Token.forest_induction with
  | nil =>
      have hnil := Action.Agree.pure (V := V) ([] : List Node)
      exact ⟨fun before => .pure before, hnil, hnil, hnil, fun _ => hnil, hnil⟩
  | cons kind raw attrs children ts hchildren hts => exact hchildren.cons htest hts

theorem drops_of_isRawHtml (hhtml : o.parseHtml = false) {p : Place}
    (h : p.isRawHtml kind raw) : Place.drops o p kind raw := by
  cases p with
  | block | line => cases kind <;> simp_all [Place.isRawHtml, Place.drops, blockKinds, lineKinds]
  | item | part | row | cell => simp [Place.isRawHtml] at h

/-- What the conversion gives depends on no more than what stays of a forest. -/
theorem agree_nodesOfBlocks (htest : ∀ p kind raw, test p kind raw → Place.drops o p kind raw)
    {us : List Token} (h : Place.block.without test ts = Place.block.without test us) :
    Action.Agree V (nodesOfBlocks Action.reading o ts) (nodesOfBlocks Action.reading o us) := by
  have hts := (sameWithout (V := V) htest ts).blocks []
  have hus := (sameWithout (V := V) htest us).blocks []
  rw [h] at hts
  exact hts.trans hus.symm

theorem agree_inlines (htest : ∀ p kind raw, test p kind raw → Place.drops o p kind raw)
    {us : List Token} (h : Place.line.without test ts = Place.line.without test us) :
    Action.Agree V (inlines Action.reading o ts) (inlines Action.reading o us) := by
  have hts := (sameWithout (V := V) htest ts).line
  have hus := (sameWithout (V := V) htest us).line
  rw [h] at hts
  exact hts.trans hus.symm

theorem looks_document (o : ParseOptions) (ts : List Token) :
    Action.Looks V (document Action.reading o ts) :=
  (agree_nodesOfBlocks (fun _ _ _ => id) rfl).map

/-- The tokens that are dropped leave no trace: a conversion has the same outcome without them, among
blocks and in a line. When raw HTML is not read, forests that differ only in it are converted to the
same document and the same LaTeX. -/
theorem conversion_erase (o : ParseOptions) (ts : List Token) (h : Host) :
    ((nodesOfBlocks Action.reading o ts).runOn h).1 =
        ((nodesOfBlocks Action.reading o (Place.block.erase o ts)).runOn h).1 ∧
      ((inlines Action.reading o ts).runOn h).1 =
        ((inlines Action.reading o (Place.line.erase o ts)).runOn h).1 ∧
      (o.parseHtml = false → ∀ us,
        (Place.block.without Place.isRawHtml ts = Place.block.without Place.isRawHtml us →
          ((document Action.reading o ts).runOn h).1 = ((document Action.reading o us).runOn h).1 ∧
            ∀ r, ((document Action.reading o ts >>= Action.renderDocument r).runOn h).1 =
              ((document Action.reading o us >>= Action.renderDocument r).runOn h).1) ∧
        (Place.line.without Place.isRawHtml ts = Place.line.without Place.isRawHtml us →
          ((inlines Action.reading o ts).runOn h).1 =
            ((inlines Action.reading o us).runOn h).1)) := by
  have herased : SameWithout HostView.packages o (Place.drops o) ts :=
    sameWithout (fun _ _ _ => id) ts
  have hseen : HostView.packages.alike h h := HostView.packages_alike h
  refine ⟨((herased.blocks []) hseen).1, (herased.line hseen).1, fun hhtml us => ⟨?_, ?_⟩⟩
  · intro hblocks
    have hdocument : Action.Agree HostView.packages (document Action.reading o ts)
        (document Action.reading o us) :=
      (agree_nodesOfBlocks (fun _ _ _ => drops_of_isRawHtml hhtml) hblocks).map
    refine ⟨(hdocument hseen).1, fun r => ?_⟩
    have hlatex := hdocument.bind fun n => (Action.agree_renderDocument r n).looks
    exact (hlatex hseen).1
  · intro hline
    have hnodes : Action.Agree HostView.packages (inlines Action.reading o ts)
        (inlines Action.reading o us) :=
      agree_inlines (fun _ _ _ => drops_of_isRawHtml hhtml) hline
    exact (hnodes hseen).1

/-- A quote that is rich in raw HTML: blocks of it, pieces of it in a line and in the description of an
image. -/
def quoteWithHtml : List Token :=
  [.leaf .blockHtml "<script>".toList,
   .branch .blockQuote
    [.branch .paragraph
      [.leaf .text "x".toList, .leaf .inlineHtml "<br>".toList,
       .branch .image [.leaf .inlineHtml "<b>".toList, .leaf .text "y".toList]],
     .leaf .blockHtml "<!-- \\input{z} -->".toList]]

/-- The same quote without it. -/
def quoteWithoutHtml : List Token :=
  [.branch .blockQuote
    [.branch .paragraph [.leaf .text "x".toList, .branch .image [.leaf .text "y".toList]]]]

theorem quoteWithHtml_untraceable :
    Place.block.without Place.isRawHtml quoteWithHtml =
        Place.block.without Place.isRawHtml quoteWithoutHtml ∧
      ∀ h, ((document Action.reading { parseHtml := false } quoteWithHtml).runOn h).1 =
        ((document Action.reading { parseHtml := false } quoteWithoutHtml).runOn h).1 := by
  have hsame : Place.block.without Place.isRawHtml quoteWithHtml =
      Place.block.without Place.isRawHtml quoteWithoutHtml := by rfl
  refine ⟨hsame, fun h => ?_⟩
  obtain ⟨-, -, hhtml⟩ := conversion_erase { parseHtml := false } quoteWithHtml h
  exact ((hhtml rfl quoteWithoutHtml).1 hsame).1

end MarkTex.Markdown
