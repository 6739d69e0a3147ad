import MarkTex.Proofs.Latex.Pairing

/-!
# Finished parts

What follows a part of a document can change what restoration makes of the part: it may close a formula
that the part has opened, and it may turn two dollars with nothing between them into the beginning of a
display formula. A part that leaves nothing of this open is *finished*. It is restored in the same way
whatever follows, and so is what follows it (`restoreMath_append`).
-/

namespace MarkTex.Latex

/-- A span is found before any text if it is found before one, unless nothing stands in it. -/
theorem Span.found_before_any {s : Span} {rest : Text} (h : spanAt? (s.source ++ rest) = some s)
    (hfilled : s ≠ .inline []) (rest' : Text) : spanAt? (s.source ++ rest') = some s := by
  have hclosed := closed_of_spanAt? h
  cases s with
  | less => rfl
  | greater => rfl
  | display d => exact spanAt?_display hclosed.1 hclosed.2 rest'
  | inline m =>
      obtain ⟨hend, hline, hlive⟩ := hclosed
      have hne : m ≠ [] := fun hnil => hfilled (congrArg Span.inline hnil)
      -- what is found where a comparison sign stands between dollars is a comparison
      have hless : m ≠ [.scalar '<'] := by
        rintro rfl
        cases h
      have hgreater : m ≠ [.scalar '>'] := by
        rintro rfl
        cases h
      exact spanAt?_inline hne hless hgreater hend hline hlive rest'

/-! ## No live dollar is left -/

/-- None of the live dollars of a text is left between the spans of its cutting. -/
def NoneLeft (escaped : Bool) (t : Text) (ps : List Piece) : Prop :=
  ∀ i < t.length, LiveAt escaped t i → (ps.flatMap Piece.roles)[i]? ≠ some .gap

instance (escaped : Bool) (t : Text) (ps : List Piece) : Decidable (NoneLeft escaped t ps) :=
  inferInstanceAs (Decidable (∀ i < t.length, _))

section
variable {escaped : Bool} {c : CodePoint} {t : Text} {ps : List Piece}

theorem NoneLeft.plain (h : NoneLeft escaped (c :: t) (.plain c :: ps)) :
    (c ≠ .scalar '$' ∨ escaped = true) ∧ NoneLeft (decide (c = .scalar '\\')) t ps := by
  constructor
  · have hlive : ¬LiveAt escaped (c :: t) 0 := fun hlive => h 0 hlive.lt hlive rfl
    rw [liveAt_cons_zero, not_and_or, Bool.not_eq_false] at hlive
    exact hlive
  · intro i _ hlive
    have hlive' : LiveAt escaped (c :: t) (i + 1) := liveAt_cons_succ.mpr hlive
    exact h (i + 1) hlive'.lt hlive'

theorem NoneLeft.span {s : Span} (h : NoneLeft false (s.source ++ t) (.span s :: ps)) :
    NoneLeft false t ps := by
  intro i _ hlive
  have hlive' : LiveAt false (s.source ++ t) (s.source.length + i) := by
    rwa [liveAt_append_right, s.escapedAfter_source]
  have hrole := h _ hlive'.lt hlive'
  rw [List.flatMap_cons, ← Piece.source, ← Piece.length_roles,
    List.getElem?_append_right (Nat.le_add_right _ _), Nat.add_sub_cancel_left] at hrole
  exact hrole

/-- Where no live dollar is left and no formula has nothing in it, each span is found again when more
follows. -/
theorem Cut.restoreFrom_append (h : Cut escaped t ps) (hend : escapedAfter escaped t = false)
    (hleft : NoneLeft escaped t ps) (hfilled : .span (.inline []) ∉ ps) (rest : Text) :
    restoreFrom escaped (t ++ rest) = ps.flatMap Piece.restored ++ restoreFrom false rest := by
  induction h with
  | nil =>
      rw [← hend]
      rfl
  | @plain _ c _ _ _ _ ih =>
      obtain ⟨hc, hrest⟩ := hleft.plain
      rw [List.cons_append, restoreFrom_plain hc,
        ih hend hrest fun hmem => hfilled (List.mem_cons_of_mem _ hmem)]
      rfl
  | @span s _ _ hfound _ ih =>
      have hs : s ≠ .inline [] := fun hs => hfilled (hs ▸ List.mem_cons_self)
      rw [escapedAfter_append, s.escapedAfter_source] at hend
      rw [List.append_assoc, restoreFrom_span (Span.found_before_any hfound hs _),
        ih hend hleft.span fun hmem => hfilled (List.mem_cons_of_mem _ hmem),
        List.flatMap_cons, List.append_assoc]
      rfl

end

/-! ## Finished parts -/

/-- A part of a document from which nothing reaches into what follows: it does not end with a backslash,
its scan leaves no live dollar, and no formula has nothing between its dollars. -/
@[mk_iff]
structure Finished (t : Text) : Prop where
  ending : t.getLast? ≠ some (.scalar '\\')
  left : NoneLeft false t (pieces t)
  filled : .span (.inline []) ∉ pieces t

instance (t : Text) : Decidable (Finished t) := decidable_of_iff _ (finished_iff t).symm

/-- A finished part of a document is restored alike whatever follows, and what follows is restored as if
it stood alone. -/
theorem restoreMath_append {a : Text} (h : Finished a) (b : Text) :
    restoreMath (a ++ b) = restoreMath a ++ restoreMath b := by
  have hcut := cut_piecesFrom false a
  exact hcut.restoreFrom_append (escapedAfter_false h.ending) h.left h.filled b

/-- A comparison next to a formula, an escaped dollar, and a display formula over two lines that holds a
live dollar. -/
def finishedFormulas : Text := Text.ofString "$<$$x$ \\$5 $$y$\nz$$"

theorem restoreMath_finishedFormulas : Finished finishedFormulas ∧
    restoreMath (finishedFormulas ++ Text.ofString "$w$ $$") =
      restoreMath finishedFormulas ++ restoreMath (Text.ofString "$w$ $$") := by
  have hfinished : Finished finishedFormulas := by decide
  exact ⟨hfinished, restoreMath_append hfinished _⟩

/-- Two dollars with nothing between them begin a display formula if what follows ends one. -/
example : restoreMath (Text.ofString "$$" ++ Text.ofString "x$$") ≠
    restoreMath (Text.ofString "$$") ++ restoreMath (Text.ofString "x$$") := by
  decide

end MarkTex.Latex
