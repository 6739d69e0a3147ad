import MarkTex.Latex.MathSpan
import Mathlib.Data.List.Basic

/-!
# Live dollars

A dollar is live when no backslash stands right before it. What ends a span is said here in terms of
the live dollars of its body: an inline span ends at the first live dollar of its line, and a display
span at the first live dollar with another dollar behind it. Neither depends on what follows the end.
-/

namespace MarkTex.Latex

/-- Whether a backslash stands right before what follows a text; the flag says whether one stands
before the text. -/
def escapedAfter (escaped : Bool) (t : Text) : Bool :=
  t.foldl (fun _ c => decide (c = .scalar '\\')) escaped

@[simp]
theorem escapedAfter_nil (escaped : Bool) : escapedAfter escaped [] = escaped := rfl

@[simp]
theorem escapedAfter_cons (escaped : Bool) (c : CodePoint) (t : Text) :
    escapedAfter escaped (c :: t) = escapedAfter (decide (c = .scalar '\\')) t := rfl

@[simp]
theorem escapedAfter_append (escaped : Bool) (a b : Text) :
    escapedAfter escaped (a ++ b) = escapedAfter (escapedAfter escaped a) b := by
  simp [escapedAfter]

theorem escapedAfter_eq_true_iff {t : Text} :
    escapedAfter false t = true ↔ t.getLast? = some (.scalar '\\') := by
  rcases List.eq_nil_or_concat t with rfl | ⟨a, c, rfl⟩
  · simp
  · simp

theorem escapedAfter_false {t : Text} (h : t.getLast? ≠ some (.scalar '\\')) :
    escapedAfter false t = false := by
  rwa [← Bool.not_eq_true, escapedAfter_eq_true_iff]

/-- At a place of a text stands a dollar, and no backslash right before it; the flag says whether a
backslash stands before the text. -/
def LiveAt (escaped : Bool) (t : Text) (i : Nat) : Prop :=
  t[i]? = some (.scalar '$') ∧ escapedAfter escaped (t.take i) = false

instance (escaped : Bool) (t : Text) (i : Nat) : Decidable (LiveAt escaped t i) :=
  inferInstanceAs (Decidable (_ ∧ _))

section
variable {escaped : Bool} {c : CodePoint} {t a b : Text} {i : Nat}

@[simp]
theorem not_liveAt_nil : ¬LiveAt escaped [] i := by simp [LiveAt]

@[simp]
theorem liveAt_cons_zero : LiveAt escaped (c :: t) 0 ↔ c = .scalar '$' ∧ escaped = false := by
  simp [LiveAt]

@[simp]
theorem liveAt_cons_succ :
    LiveAt escaped (c :: t) (i + 1) ↔ LiveAt (decide (c = .scalar '\\')) t i := by
  simp [LiveAt]

theorem LiveAt.mem (h : LiveAt escaped t i) : .scalar '$' ∈ t := List.mem_of_getElem? h.1

theorem LiveAt.lt (h : LiveAt escaped t i) : i < t.length := (List.getElem?_eq_some_iff.mp h.1).1

theorem liveAt_append_left (hi : i < a.length) : LiveAt escaped (a ++ b) i ↔ LiveAt escaped a i := by
  rw [LiveAt, LiveAt, List.getElem?_append_left hi, List.take_append_of_le_length (Nat.le_of_lt hi)]

theorem liveAt_append_right :
    LiveAt escaped (a ++ b) (a.length + i) ↔ LiveAt (escapedAfter escaped a) b i := by
  rw [LiveAt, LiveAt, List.getElem?_append_right (Nat.le_add_right _ _), Nat.add_sub_cancel_left,
    List.take_length_add_append, escapedAfter_append]

/-- A live dollar of two texts is one of the first or, with the first before it, one of the second. -/
theorem LiveAt.append_cases (h : LiveAt escaped (a ++ b) i) :
    LiveAt escaped a i ∨ ∃ j, i = a.length + j ∧ LiveAt (escapedAfter escaped a) b j := by
  rcases Nat.lt_or_ge i a.length with hi | hi
  · exact .inl ((liveAt_append_left hi).mp h)
  · obtain ⟨j, rfl⟩ := Nat.exists_eq_add_of_le hi
    exact .inr ⟨j, rfl, liveAt_append_right.mp h⟩

end

/-! ## The end of a body -/

/-- No dollar of a text is live. -/
def NoLive (escaped : Bool) (t : Text) : Prop := ∀ i, ¬LiveAt escaped t i

theorem noLive_cons_iff {escaped : Bool} {c : CodePoint} {t : Text} :
    NoLive escaped (c :: t) ↔
      ¬(c = .scalar '$' ∧ escaped = false) ∧ NoLive (decide (c = .scalar '\\')) t := by
  constructor
  · exact fun h => ⟨liveAt_cons_zero.not.mp (h 0), fun i => liveAt_cons_succ.not.mp (h (i + 1))⟩
  · rintro ⟨hlive, hrest⟩ i
    cases i with
    | zero => exact liveAt_cons_zero.not.mpr hlive
    | succ i => exact liveAt_cons_succ.not.mpr (hrest i)

instance decidableNoLive (escaped : Bool) : (t : Text) → Decidable (NoLive escaped t)
  | [] => isTrue fun _ => not_liveAt_nil
  | c :: t =>
    have := decidableNoLive (decide (c = .scalar '\\')) t
    decidable_of_iff _ noLive_cons_iff.symm

theorem noLive_append_iff {escaped : Bool} {a b : Text} :
    NoLive escaped (a ++ b) ↔ NoLive escaped a ∧ NoLive (escapedAfter escaped a) b := by
  induction a generalizing escaped with
  | nil => simp [NoLive]
  | cons c a ih => rw [List.cons_append, noLive_cons_iff, noLive_cons_iff, ih, and_assoc,
      escapedAfter_cons]

theorem noLive_of_no_dollar {escaped : Bool} {t : Text} (h : .scalar '$' ∉ t) : NoLive escaped t :=
  fun _ hlive => h hlive.mem

/-- The body of an inline span holds no live dollar and no end of a line, and does not end with a
backslash. -/
theorem inlineBody?_eq_some_iff {m : Text} {escaped : Bool} {rest : Text} :
    inlineBody? escaped (m ++ .scalar '$' :: rest) = some m ↔
      escapedAfter escaped m = false ∧ .scalar '\n' ∉ m ∧ NoLive escaped m := by
  induction m generalizing escaped with
  | nil => cases escaped <;> simp [inlineBody?, NoLive]
  | cons c m ih =>
      rw [List.cons_append, inlineBody?, noLive_cons_iff]
      split
      next hlive => simp [hlive]
      next hlive =>
        split
        next hline => simp [hline]
        next hline =>
          simp only [Option.map_eq_some_iff, List.cons.injEq, true_and, exists_eq_right, ih,
            escapedAfter_cons, List.mem_cons, not_or, hlive, not_false_eq_true,
            and_iff_right (Ne.symm hline)]

/-- A line ends before each live dollar. -/
def LiveLater (escaped : Bool) (t : Text) : Prop :=
  ∀ i, LiveAt escaped t i → ∃ k, k < i ∧ t[k]? = some (.scalar '\n')

theorem liveLater_cons_iff {escaped : Bool} {c : CodePoint} {t : Text} :
    LiveLater escaped (c :: t) ↔ ¬(c = .scalar '$' ∧ escaped = false) ∧
      (c = .scalar '\n' ∨ LiveLater (decide (c = .scalar '\\')) t) := by
  constructor
  · intro h
    refine ⟨fun hlive => ?_, or_iff_not_imp_left.mpr fun hline i hi => ?_⟩
    · obtain ⟨k, hk, -⟩ := h 0 (liveAt_cons_zero.mpr hlive)
      exact absurd hk (Nat.not_lt_zero k)
    · obtain ⟨k, hk, hnew⟩ := h (i + 1) (liveAt_cons_succ.mpr hi)
      cases k with
      | zero => exact absurd (Option.some.inj hnew) hline
      | succ k => exact ⟨k, Nat.lt_of_succ_lt_succ hk, hnew⟩
  · rintro ⟨hlive, hrest⟩ i hi
    cases i with
    | zero => exact absurd (liveAt_cons_zero.mp hi) hlive
    | succ i =>
        rcases hrest with rfl | hlater
        · exact ⟨0, Nat.succ_pos i, rfl⟩
        · obtain ⟨k, hk, hnew⟩ := hlater i (liveAt_cons_succ.mp hi)
          exact ⟨k + 1, Nat.succ_lt_succ hk, hnew⟩

/-- No inline span closes on a line without a live dollar, and only on such a line. -/
theorem inlineBody?_eq_none_iff {escaped : Bool} {t : Text} :
    inlineBody? escaped t = none ↔ LiveLater escaped t := by
  induction t generalizing escaped with
  | nil => simp [inlineBody?, LiveLater]
  | cons c t ih =>
      rw [inlineBody?, liveLater_cons_iff, ← ih]
      split
      next hlive => simp [hlive]
      next hlive =>
        split
        next hline => simp [hline]
        next hline => simp [hlive, hline]

/-- Behind no live dollar of a text stands another dollar. -/
def NoLivePair (escaped : Bool) (t : Text) : Prop :=
  ∀ i, LiveAt escaped t i → t[i + 1]? ≠ some (.scalar '$')

theorem noLivePair_cons_iff {escaped : Bool} {c : CodePoint} {t : Text} :
    NoLivePair escaped (c :: t) ↔
      ¬(c = .scalar '$' ∧ escaped = false ∧ t.head? = some (.scalar '$')) ∧
        NoLivePair (decide (c = .scalar '\\')) t := by
  constructor
  · intro h
    refine ⟨fun ⟨hdollar, hescaped, hnext⟩ => ?_, fun i hi => h (i + 1) (liveAt_cons_succ.mpr hi)⟩
    refine h 0 (liveAt_cons_zero.mpr ⟨hdollar, hescaped⟩) ?_
    rwa [List.getElem?_cons_succ, ← List.head?_eq_getElem?]
  · rintro ⟨hpair, hrest⟩ i hi
    cases i with
    | zero =>
        obtain ⟨hdollar, hescaped⟩ := liveAt_cons_zero.mp hi
        rw [List.getElem?_cons_succ, ← List.head?_eq_getElem?]
        exact fun hnext => hpair ⟨hdollar, hescaped, hnext⟩
    | succ i => exact hrest i (liveAt_cons_succ.mp hi)

theorem displayBody?_eq_none_iff {escaped : Bool} {t : Text} :
    displayBody? escaped t = none ↔ NoLivePair escaped t := by
  induction t generalizing escaped with
  | nil => simp [displayBody?, NoLivePair]
  | cons c t ih =>
      rw [displayBody?, noLivePair_cons_iff, ← ih]
      split
      next hpair => simp [hpair]
      next hpair => simp [hpair]

/-- The body of a display span goes as far as no live dollar has another behind it, that of its end
counted, and is no backslash at the end. -/
theorem displayBody?_eq_some_iff {d : Text} {escaped : Bool} {rest : Text} :
    displayBody? escaped (d ++ .scalar '$' :: .scalar '$' :: rest) = some d ↔
      escapedAfter escaped d = false ∧ NoLivePair escaped (d ++ [.scalar '$']) := by
  induction d generalizing escaped with
  | nil =>
      cases escaped <;> simp [displayBody?, NoLivePair]
  | cons c d ih =>
      have hhead : (d ++ [CodePoint.scalar '$']).head? =
          (d ++ .scalar '$' :: .scalar '$' :: rest).head? := by
        cases d <;> rfl
      rw [List.cons_append, List.cons_append, displayBody?, noLivePair_cons_iff, hhead]
      split
      next hpair => simp [hpair]
      next hpair =>
        simp only [Option.map_eq_some_iff, List.cons.injEq, true_and, exists_eq_right, ih,
          escapedAfter_cons, not_false_eq_true, hpair]

end MarkTex.Latex
