import MarkTex.Latex.Render
import MarkTex.Proofs.Markdown.Conversion
import Mathlib.Data.List.Forall2

/-!
# Blocks side by side

What block tokens side by side leave in a document is put together with separators: one stands
before the nodes of each token, the first aside. Text of a tight item alone gets none. It joins what
is before it, so a block in front of such text runs into it: `nodesOfBlocks_joined`.
-/

namespace MarkTex.Markdown

/-! ## Computations by what they give -/

/-- Every value that a computation gives has a property. -/
def Gives {m : Type → Type} [Monad m] {α : Type} (P : α → Prop) (x : m α) : Prop :=
  ∃ y : m {a // P a}, (do let a ← y; return a.1) = x

namespace Gives

variable {m : Type → Type} [Monad m] [LawfulMonad m] {α β : Type} {P : α → Prop} {x : m α}

theorem pure {a : α} (h : P a) : Gives P (Pure.pure a : m α) := ⟨Pure.pure ⟨a, h⟩, by simp⟩

theorem map {y : m β} {f : β → α} (h : ∀ b, P (f b)) : Gives P (do let b ← y; return f b) :=
  ⟨do let b ← y; return ⟨f b, h b⟩, by simp⟩

theorem bind {Q : β → Prop} {k : α → m β} (hx : Gives P x) (hk : ∀ a, P a → Gives Q (k a)) :
    Gives Q (x >>= k) := by
  obtain ⟨y, rfl⟩ := hx
  refine ⟨y >>= fun a => (hk a.1 a.2).choose, ?_⟩
  simp only [bind_assoc, pure_bind]
  congr 1
  funext a
  exact (hk a.1 a.2).choose_spec

/-- What follows a computation matters only for the values that it gives. -/
theorem bind_congr {k k' : α → m β} (hx : Gives P x) (h : ∀ a, P a → k a = k' a) :
    x >>= k = x >>= k' := by
  obtain ⟨y, rfl⟩ := hx
  simp only [bind_assoc, pure_bind]
  congr 1
  funext a
  exact h a.1 a.2

end Gives

/-! ## What block tokens leave -/

/-- Text of a tight item is spliced in, and nothing else is. -/
def LeftBy (t : Token) : Produced → Prop
  | .run _ => t.kind = .blockText
  | .nothing | .block _ => t.kind ≠ .blockText

variable {m : Type → Type} [Monad m] [LawfulMonad m] (fx : Reading m) (o : ParseOptions)

theorem gives_block (t : Token) : Gives (LeftBy t) (block fx o t) := by
  obtain ⟨kind, raw, attrs, children⟩ := t
  cases kind with
  | blockText => exact Gives.map fun _ => rfl
  | blockHtml =>
      rw [block]
      split
      · exact Gives.map fun _ hkind => by cases hkind
      · exact Gives.map fun _ hkind => by cases hkind
  | blockCode | thematicBreak | blockMath | blankLine =>
      exact Gives.pure fun hkind => by cases hkind
  | _ => exact Gives.map fun _ hkind => by cases hkind

theorem gives_blocks (ts : List Token) : Gives (List.Forall₂ LeftBy ts) (blocks fx o ts) := by
  induction ts with
  | nil => exact Gives.pure .nil
  | cons t ts ih =>
      rw [blocks]
      apply (gives_block fx o t).bind
      intro p hp
      apply ih.bind
      intro ps hps
      exact Gives.pure (.cons hp hps)

/-! ## Nodes with separators between them -/

/-- The tokens of a row that leave nodes, each with its nodes. -/
def leavings (ts : List Token) (ps : List Produced) : List (Token × List Node) :=
  (ts.zip (ps.map Produced.nodes)).filter fun v => !v.2.isEmpty

/-- What stands between the nodes of a token and those before them. -/
def gapBefore (separator : Text) (t : Token) : List Node :=
  if t.kind = .blockText then [] else [.text separator]

/-- The nodes of tokens in a row, with what stands between them. -/
def joined (separator : Text) : List (Token × List Node) → List Node
  | [] => []
  | v :: row => v.2 ++ row.flatMap fun w => gapBefore separator w.1 ++ w.2

theorem LeftBy.addTo_eq {separator : Text} (hseparator : separator ≠ []) {t : Token} {p : Produced}
    (h : LeftBy t p) (before : List Node) :
    p.addTo separator before =
      if p.nodes.isEmpty then before
      else if before.isEmpty then p.nodes
      else before ++ (gapBefore separator t ++ p.nodes) := by
  have hfull : separator.isEmpty = false := by simpa using hseparator
  cases p with
  | nothing => rfl
  | run nodes =>
      have hkind : t.kind = .blockText := h
      rw [gapBefore, if_pos hkind]
      cases nodes <;> cases before <;> simp [Produced.addTo, Produced.nodes]
  | block nodes =>
      have hkind : t.kind ≠ .blockText := h
      rw [gapBefore, if_neg hkind]
      cases nodes <;> cases before <;> simp [Produced.addTo, Produced.nodes, hfull]

theorem leavings_cons (t : Token) (ts : List Token) (p : Produced) (ps : List Produced) :
    leavings (t :: ts) (p :: ps) =
      if p.nodes.isEmpty then leavings ts ps else (t, p.nodes) :: leavings ts ps := by
  rw [leavings, List.map_cons, List.zip_cons_cons, List.filter_cons]
  cases p.nodes.isEmpty <;> rfl

theorem foldl_addTo_of_ne_nil {separator : Text} (hseparator : separator ≠ []) {ts : List Token}
    {ps : List Produced} (h : List.Forall₂ LeftBy ts ps) {before : List Node}
    (hbefore : before ≠ []) :
    ps.foldl (Produced.addTo separator) before =
      before ++ (leavings ts ps).flatMap fun v => gapBefore separator v.1 ++ v.2 := by
  induction h generalizing before with
  | nil => simp [leavings]
  | @cons t p ts ps hp _ ih =>
      have hsome : ¬ before.isEmpty := by simpa using hbefore
      rw [List.foldl_cons, hp.addTo_eq hseparator, leavings_cons, if_neg hsome]
      by_cases hnodes : p.nodes.isEmpty
      · rw [if_pos hnodes, if_pos hnodes]
        exact ih hbefore
      · rw [if_neg hnodes, if_neg hnodes, ih (by simp [hbefore]), List.flatMap_cons,
          List.append_assoc]

/-- What is put together token by token are the nodes in a row, with what stands between them. -/
theorem assemble_eq_joined {separator : Text} (hseparator : separator ≠ []) {ts : List Token}
    {ps : List Produced} (h : List.Forall₂ LeftBy ts ps) :
    assemble separator ps = joined separator (leavings ts ps) := by
  unfold assemble
  induction h with
  | nil => rfl
  | @cons t p ts ps hp hps ih =>
      rw [List.foldl_cons, hp.addTo_eq hseparator, leavings_cons]
      by_cases hnodes : p.nodes.isEmpty
      · rw [if_pos hnodes, if_pos hnodes]
        exact ih
      · rw [if_neg hnodes, if_neg hnodes]
        exact foldl_addTo_of_ne_nil hseparator hps (by simpa using hnodes)

theorem intercalate_eq_flatMap {α : Type} (gap x : List α) (xs : List (List α)) :
    gap.intercalate (x :: xs) = x ++ xs.flatMap (gap ++ ·) := by
  induction xs generalizing x with
  | nil => simp
  | cons y ys ih => simp only [List.intercalate_cons_cons, ih, List.flatMap_cons, List.append_assoc]

theorem length_flatMap_gapBefore_le (separator : Text) (row : List (Token × List Node)) :
    (row.flatMap fun v => gapBefore separator v.1 ++ v.2).length ≤
      (row.flatMap fun v => [.text separator] ++ v.2).length := by
  induction row with
  | nil => exact Nat.le_refl 0
  | cons v row ih =>
      have hgap : (gapBefore separator v.1).length ≤ 1 := by
        unfold gapBefore
        split <;> simp
      simp only [List.flatMap_cons, List.length_append, List.length_singleton] at ih ⊢
      omega

theorem flatMap_gapBefore_eq_iff (separator : Text) (row : List (Token × List Node)) :
    (row.flatMap fun v => gapBefore separator v.1 ++ v.2) =
        (row.flatMap fun v => [.text separator] ++ v.2) ↔
      ∀ v ∈ row, v.1.kind ≠ .blockText := by
  induction row with
  | nil => simp
  | cons v row ih =>
      rw [List.flatMap_cons, List.flatMap_cons, List.forall_mem_cons, ← ih]
      by_cases hkind : v.1.kind = .blockText
      · -- without a separator the nodes are fewer, whatever follows them
        have hshort := length_flatMap_gapBefore_le separator row
        rw [gapBefore, if_pos hkind]
        refine iff_of_false ?_ fun h => h.1 hkind
        intro heq
        have hlength := congrArg List.length heq
        simp only [List.nil_append, List.length_append, List.length_singleton] at hlength hshort
        omega
      · rw [gapBefore, if_neg hkind, List.append_cancel_left_eq]
        exact (and_iff_right hkind).symm

theorem joined_eq_intercalate_iff (separator : Text) (row : List (Token × List Node)) :
    joined separator row = [.text separator].intercalate (row.map Prod.snd) ↔
      ∀ v ∈ row.tail, v.1.kind ≠ .blockText := by
  cases row with
  | nil => simp [joined]
  | cons v row =>
      rw [joined, List.map_cons, intercalate_eq_flatMap, List.flatMap_map,
        List.append_cancel_left_eq]
      exact flatMap_gapBefore_eq_iff separator row

/-! ## Rows of blocks in a document -/

/-- Wherever block tokens stand side by side, in a document, in a quote or in an item of a list, the
nodes of those that leave any are put together in the same way. Between each two there is a
separator just if none but the first is text of a tight item. -/
theorem nodesOfBlocks_joined (hseparator : o.blockSeparator ≠ []) :
    (∀ ts, nodesOfBlocks fx o ts = do
      let ps ← blocks fx o ts
      return joined o.blockSeparator (leavings ts ps)) ∧
    (∀ ts, document fx o ts = do
      let ns ← nodesOfBlocks fx o ts
      return Node.generic "document" ns) ∧
    (∀ raw attrs children, block fx o (.mk .blockQuote raw attrs children) = do
      let ns ← nodesOfBlocks fx o children
      return .block [Node.generic "blockquote" ns]) ∧
    (∀ raw attrs children ts, listItems fx o (.mk .listItem raw attrs children :: ts) = do
      let ns ← nodesOfBlocks fx o children
      let items ← listItems fx o ts
      return Node.ofKind .listItem ns [] :: items) ∧
    ∀ row, joined o.blockSeparator row =
        [.text o.blockSeparator].intercalate (row.map Prod.snd) ↔
      ∀ v ∈ row.tail, v.1.kind ≠ .blockText := by
  refine ⟨?_, fun _ => rfl, ?_, ?_, joined_eq_intercalate_iff o.blockSeparator⟩
  · intro ts
    apply (gives_blocks fx o ts).bind_congr
    intro ps hps
    rw [assemble_eq_joined hseparator hps]
  · intro raw attrs children
    simp [block, nodesOfBlocks]
  · intro raw attrs children ts
    simp [listItems, nodesOfBlocks]

/-- An item of a list: text, nothing, a heading and a rule. -/
def spacedItem : List Token :=
  [.branch .blockText [.leaf .text ['a']], .leaf .blankLine [],
   .mk .heading [] { level := some 5 } [.leaf .text ['b']], .leaf .thematicBreak []]

theorem nodesOfBlocks_spacedItem : ({} : ParseOptions).blockSeparator ≠ [] ∧
    nodesOfBlocks Reading.silent {} spacedItem =
      [.text (Text.ofString "\n")].intercalate
        [[.text (Text.ofString "a")], [Node.generic "h5" [.text (Text.ofString "b")]],
         [Node.generic "hr" []]] := by
  have hseparator : ({} : ParseOptions).blockSeparator ≠ [] := by decide
  obtain ⟨hrow, _, _, _, hspaced⟩ := nodesOfBlocks_joined Reading.silent {} hseparator
  have hjoined := (hspaced (leavings spacedItem (blocks Reading.silent {} spacedItem))).mpr
    (by decide)
  refine ⟨hseparator, (hrow spacedItem).trans (hjoined.trans ?_)⟩
  rfl

/-- An item of a list: a heading and text. -/
def crowdedItem : List Token :=
  [.mk .heading [] { level := some 5 } [.leaf .text ['a']], .branch .blockText [.leaf .text ['b']]]

/-- Text behind a heading gets no separator, and the two are written as one word. -/
theorem nodesOfBlocks_crowdedItem :
    (leavings crowdedItem (blocks Reading.silent {} crowdedItem)).map Prod.snd =
        [[Node.generic "h5" [.text (Text.ofString "a")]], [.text (Text.ofString "b")]] ∧
      Node.text ({} : ParseOptions).blockSeparator ∉
        (nodesOfBlocks Reading.silent {} crowdedItem).run ∧
      Latex.renderAll {} (nodesOfBlocks Reading.silent {} crowdedItem) = Text.ofString "ab" := by
  have hnodes : (nodesOfBlocks Reading.silent {} crowdedItem).run =
      [Node.generic "h5" [.text (Text.ofString "a")], .text (Text.ofString "b")] := rfl
  refine ⟨rfl, ?_, ?_⟩
  · rw [hnodes]
    intro hmem
    rcases List.mem_pair.mp hmem with heq | heq
    · cases heq
    · exact absurd (Node.text.inj heq) (by decide)
  · exact (congrArg (Latex.renderAll {}) hnodes).trans (by decide)

end MarkTex.Markdown
