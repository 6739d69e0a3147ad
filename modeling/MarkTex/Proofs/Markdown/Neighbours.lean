import MarkTex.Proofs.Markdown.LineBreaks
import MarkTex.Proofs.Markdown.SiblingBlocks

/-!
# Rows of blocks one after the other

What block tokens leave in a document does not depend on the tokens beside them. Two rows of tokens,
one after the other, leave what each leaves alone, with at most a separator between: the *seam*. The
same holds of what is written of them: `nodesOfBlocks_append`.
-/

namespace MarkTex.Markdown

/-! ## Seams -/

/-- Whether a separator stands between the nodes of two rows of tokens, given the tokens behind that
leave any: both rows leave nodes, and the first of those tokens is no text of a tight item. -/
def separatorDue (separator : Text) (before after : List Node) (row : List (Token × List Node)) :
    Bool :=
  !separator.isEmpty && !before.isEmpty && !after.isEmpty &&
    row.head?.all fun v => v.1.kind ≠ .blockText

/-- What stands between the nodes of two rows of tokens. -/
def seam (separator : Text) (before after : List Node) (row : List (Token × List Node)) :
    List Node :=
  if separatorDue separator before after row then [.text separator] else []

theorem seam_nil_separator (before after : List Node) (row : List (Token × List Node)) :
    seam [] before after row = [] := rfl

theorem seam_nil_before (separator : Text) (after : List Node) (row : List (Token × List Node)) :
    seam separator [] after row = [] := by
  simp [seam, separatorDue]

theorem seam_nil_after (separator : Text) (before : List Node) (row : List (Token × List Node)) :
    seam separator before [] row = [] := by
  simp [seam, separatorDue]

theorem seam_cons {separator : Text} {before after : List Node} (hseparator : separator ≠ [])
    (hbefore : before ≠ []) (hafter : after ≠ []) (v : Token × List Node)
    (row : List (Token × List Node)) :
    seam separator before after (v :: row) = gapBefore separator v.1 := by
  by_cases hkind : v.1.kind = .blockText <;>
    simp [seam, separatorDue, gapBefore, hseparator, hbefore, hafter, hkind]

/-! ## Nodes put together row by row -/

theorem nodes_ne_nil_of_mem_leavings {ts : List Token} {ps : List Produced} {v : Token × List Node}
    (h : v ∈ leavings ts ps) : v.2 ≠ [] := by
  simpa using (List.mem_filter.mp h).2

theorem foldl_addTo_nil_separator (ps : List Produced) (before : List Node) :
    ps.foldl (Produced.addTo []) before = before ++ ps.flatMap Produced.nodes := by
  have hstep : ∀ (p : Produced) (before : List Node), p.addTo [] before = before ++ p.nodes := by
    intro p before
    cases p with
    | nothing => simp [Produced.addTo, Produced.nodes]
    | run nodes => rfl
    | block nodes => cases nodes <;> simp [Produced.addTo, Produced.nodes]
  induction ps generalizing before with
  | nil => simp
  | cons p ps ih => rw [List.foldl_cons, hstep, ih, List.flatMap_cons, List.append_assoc]

/-- Nodes put together behind others are those put together alone, behind a seam. -/
theorem foldl_addTo_eq_seam (separator : Text) {ts : List Token} {ps : List Produced}
    (h : List.Forall₂ LeftBy ts ps) (before : List Node) :
    ps.foldl (Produced.addTo separator) before =
      before ++ seam separator before (assemble separator ps) (leavings ts ps) ++
        assemble separator ps := by
  by_cases hseparator : separator = []
  · subst hseparator
    rw [seam_nil_separator, assemble, foldl_addTo_nil_separator, foldl_addTo_nil_separator,
      List.append_nil, List.nil_append]
  by_cases hbefore : before = []
  · subst hbefore
    rw [seam_nil_before]
    rfl
  rw [foldl_addTo_of_ne_nil hseparator h hbefore, assemble_eq_joined hseparator h]
  cases hrow : leavings ts ps with
  | nil => simp [joined, seam_nil_after]
  | cons v row =>
      have hfirst : v.2 ≠ [] := nodes_ne_nil_of_mem_leavings (hrow ▸ List.mem_cons_self)
      have hjoined : joined separator (v :: row) ≠ [] := by simp [joined, hfirst]
      rw [seam_cons hseparator hbefore hjoined]
      simp [joined]

theorem assemble_append (separator : Text) (ps : List Produced) {ts : List Token}
    {qs : List Produced} (h : List.Forall₂ LeftBy ts qs) :
    assemble separator (ps ++ qs) =
      assemble separator ps ++
          seam separator (assemble separator ps) (assemble separator qs) (leavings ts qs) ++
        assemble separator qs := by
  rw [assemble, List.foldl_append]
  exact foldl_addTo_eq_seam separator h _

/-! ## Rows of tokens -/

variable {m : Type → Type} [Monad m] [LawfulMonad m] (fx : Reading m) (o : ParseOptions)

theorem blocks_append (a b : List Token) :
    blocks fx o (a ++ b) = do
      let ps ← blocks fx o a
      let qs ← blocks fx o b
      return ps ++ qs := by
  induction a with
  | nil => simp [blocks]
  | cons t a ih => simp only [List.cons_append, blocks, ih, bind_assoc, pure_bind]

theorem render_document (r : Latex.RenderOptions) (ns : List Node) :
    Latex.render r (Node.generic "document" ns) = Latex.renderAll r ns := rfl

/-- What is made of the nodes of two rows of tokens is made of the nodes of each, with the seam
between them. -/
theorem map_nodesOfBlocks_append {α : Type} (f : List Node → α) (a b : List Token) :
    (do
      let ns ← nodesOfBlocks fx o (a ++ b)
      return f ns) = do
    let before ← nodesOfBlocks fx o a
    let ps ← blocks fx o b
    let after := assemble o.blockSeparator ps
    return f (before ++ seam o.blockSeparator before after (leavings b ps) ++ after) := by
  simp only [nodesOfBlocks, blocks_append, bind_assoc, pure_bind]
  congr 1
  funext ps
  apply (gives_blocks fx o b).bind_congr
  intro qs hqs
  rw [assemble_append o.blockSeparator ps hqs]

/-- Two rows of block tokens leave what the first leaves, the seam, and what the second leaves. The
document of both is written as the document of the first, the seam, and the document of the second.
-/
theorem nodesOfBlocks_append (r : Latex.RenderOptions) (a b : List Token) :
    nodesOfBlocks fx o (a ++ b) = (do
      let before ← nodesOfBlocks fx o a
      let ps ← blocks fx o b
      let after := assemble o.blockSeparator ps
      return before ++ seam o.blockSeparator before after (leavings b ps) ++ after) ∧
    (do
      let both ← document fx o (a ++ b)
      return Latex.render r both) = (do
      let before ← document fx o a
      let ps ← blocks fx o b
      let after := Node.generic "document" (assemble o.blockSeparator ps)
      let between := seam o.blockSeparator before.children after.children (leavings b ps)
      return Latex.render r before ++ Latex.renderAll r between ++ Latex.render r after) := by
  constructor
  · simpa using map_nodesOfBlocks_append fx o id a b
  · simp only [document, bind_assoc, pure_bind, render_document]
    rw [map_nodesOfBlocks_append fx o (Latex.renderAll r) a b]
    simp only [renderAll_append]
    rfl

/-- A heading of a level that has no command. -/
def lowHeading : List Token := [.mk .heading [] { level := some 5 } [.leaf .text ['a']]]

/-- Nothing and a rule, with text of a tight item behind them. -/
def ruledText : List Token :=
  [.leaf .blankLine [], .leaf .thematicBreak [], .branch .blockText [.leaf .text ['b']]]

/-- Behind the heading a separator is due in front of the rule, and none in front of the text. -/
theorem nodesOfBlocks_lowHeading :
    nodesOfBlocks Reading.silent {} (lowHeading ++ ruledText) =
        [Node.generic "h5" [.text (Text.ofString "a")], .text (Text.ofString "\n"),
         Node.generic "hr" [], .text (Text.ofString "b")] ∧
      nodesOfBlocks Reading.silent {} (lowHeading ++ ruledText.drop 2) =
        [Node.generic "h5" [.text (Text.ofString "a")], .text (Text.ofString "b")] := by
  obtain ⟨hruled, _⟩ := nodesOfBlocks_append Reading.silent {} {} lowHeading ruledText
  obtain ⟨htext, _⟩ := nodesOfBlocks_append Reading.silent {} {} lowHeading (ruledText.drop 2)
  exact ⟨hruled.trans rfl, htext.trans rfl⟩

end MarkTex.Markdown
