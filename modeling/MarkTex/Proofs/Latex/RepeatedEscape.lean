import MarkTex.Proofs.Latex.Escape
import Mathlib.Algebra.Order.BigOperators.Group.List
import Mathlib.Algebra.Order.Ring.Nat
import Mathlib.Tactic.TFAE

/-!
# Escaping again

Each replacement of a special character is longer than the character and holds a special character
itself. So escaping has no notion of text that is escaped already: a text without special characters
stays as it is, and any other becomes longer each time it is escaped.
-/

namespace MarkTex.Latex

/-! ## Single code points -/

theorem exists_special_replacement {x : CodePoint} (hx : x ∈ specialCodePoints) :
    ∃ y ∈ replacement x, y ∈ specialCodePoints := by
  have hrules : ∀ rule ∈ specials, ∃ y ∈ rule.2, y ∈ specialCodePoints := by decide
  obtain ⟨rule, hrule, rfl⟩ := List.mem_map.mp hx
  rw [replacement_of_mem hrule]
  exact hrules rule hrule

theorem one_lt_length_replacement {x : CodePoint} (hx : x ∈ specialCodePoints) :
    1 < (replacement x).length := by
  have hrules : ∀ rule ∈ specials, 1 < rule.2.length := by decide
  obtain ⟨rule, hrule, rfl⟩ := List.mem_map.mp hx
  rw [replacement_of_mem hrule]
  exact hrules rule hrule

theorem one_le_length_replacement (x : CodePoint) : 1 ≤ (replacement x).length := by
  by_cases hx : x ∈ specialCodePoints
  · exact Nat.le_of_lt (one_lt_length_replacement hx)
  · rw [replacement_of_notMem hx, List.length_singleton]

/-! ## Texts -/

theorem escape_of_plain {t : Text} (h : ∀ x ∈ t, x ∉ specialCodePoints) : escape t = t := by
  apply applyRules_of_notMem specials
  intro rule hrule hmem
  exact h _ hmem (List.mem_map_of_mem hrule)

section
variable {t : Text} (h : ∃ x ∈ t, x ∈ specialCodePoints)
include h

theorem exists_special_escape : ∃ x ∈ escape t, x ∈ specialCodePoints := by
  obtain ⟨x, hx, hspecial⟩ := h
  obtain ⟨y, hy, hyspecial⟩ := exists_special_replacement hspecial
  rw [escape_eq_flatMap]
  exact ⟨y, List.mem_flatMap.mpr ⟨x, hx, hy⟩, hyspecial⟩

theorem exists_special_iterate (n : Nat) : ∃ x ∈ escape^[n] t, x ∈ specialCodePoints := by
  induction n with
  | zero => exact h
  | succ n ih =>
      rw [Function.iterate_succ_apply']
      exact exists_special_escape ih

theorem length_lt_length_escape : t.length < (escape t).length := by
  have hlonger : ∃ x ∈ t, 1 < (replacement x).length :=
    h.imp fun _ hx => ⟨hx.1, one_lt_length_replacement hx.2⟩
  calc t.length = (t.map fun _ => 1).sum := by simp
    _ < (t.map fun x => (replacement x).length).sum :=
      List.sum_lt_sum _ _ (fun x _ => one_le_length_replacement x) hlonger
    _ = (escape t).length := by rw [escape_eq_flatMap, List.length_flatMap]

end

/-- Text without special characters is the text that escaping leaves alone, and the text that a second
escaping leaves as the first has made it. Any other text grows with every further escaping. -/
theorem escape_stable_or_growing (t : Text) :
    List.TFAE [∀ x ∈ t, x ∉ specialCodePoints, escape t = t, escape (escape t) = escape t] ∧
      ((∃ x ∈ t, x ∈ specialCodePoints) →
        ∀ n, (escape^[n] t).length < (escape^[n + 1] t).length) := by
  constructor
  · tfae_have 1 → 2 := escape_of_plain
    tfae_have 2 → 3 := congrArg escape
    tfae_have 3 → 1 := by
      intro hstable x hx hspecial
      have hgrows := length_lt_length_escape (exists_special_escape ⟨x, hx, hspecial⟩)
      rw [hstable] at hgrows
      exact Nat.lt_irrefl _ hgrows
    tfae_finish
  · intro hspecial n
    rw [Function.iterate_succ_apply']
    exact length_lt_length_escape (exists_special_iterate hspecial n)

/-- A text between braces whose only special character is a tilde. -/
def tildeInBraces : Text := Text.ofString "\x7ba~b\x7d"

theorem tildeInBraces_grows : (∃ x ∈ tildeInBraces, x ∈ specialCodePoints) ∧
    ∀ n, (escape^[n] tildeInBraces).length < (escape^[n + 1] tildeInBraces).length := by
  have hspecial : ∃ x ∈ tildeInBraces, x ∈ specialCodePoints := by decide
  exact ⟨hspecial, (escape_stable_or_growing tildeInBraces).2 hspecial⟩

end MarkTex.Latex
