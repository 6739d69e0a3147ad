import Mathlib.Data.List.DropRight
import MarkTex.Document.Node

/-!
# Blank edges

Trimming takes the blank leaves off both ends of a list of nodes and nothing else. What is left is the
one contiguous part of the list that has only blank leaves before and behind it and none at its own
ends. Two scans find it, one up from the front and one down from the back; each goes on over blank
leaves, and they do not pass each other: `trimBlankNodes_edges`.
-/

namespace MarkTex

section Lists

variable {α : Type} {p : α → Bool} {xs kept : List α} {start stop : Nat}

/-! ## A part without edges -/

/-- A contiguous part of a list, before and behind which all elements pass a test, while its own first
and last elements do not. -/
structure Trims (test : α → Prop) (xs kept : List α) : Prop where
  parts : ∃ front back, xs = front ++ kept ++ back ∧ (∀ x ∈ front, test x) ∧ ∀ x ∈ back, test x
  first : ∀ x ∈ kept.head?, ¬ test x
  last : ∀ x ∈ kept.getLast?, ¬ test x

/-- What is left has no edges of its own. -/
theorem Trims.self {test : α → Prop} (h : Trims test xs kept) : Trims test kept kept where
  parts := ⟨[], [], by simp, nofun, nofun⟩
  first := h.first
  last := h.last

theorem Trims.nil_iff {test : α → Prop} : Trims test xs [] ↔ ∀ x ∈ xs, test x := by
  constructor
  · intro h x hx
    obtain ⟨front, back, rfl, hfront, hback⟩ := h.parts
    rw [List.append_nil] at hx
    exact (List.mem_append.mp hx).elim (hfront x) (hback x)
  · intro h
    exact ⟨⟨xs, [], by simp, h, nofun⟩, nofun, nofun⟩

/-- The first element behind a dropped row fails the test. -/
theorem not_of_head?_dropWhile {x : α} (h : (xs.dropWhile p).head? = some x) : ¬ p x := by
  have hhead := List.head?_dropWhile_not p xs
  rw [h] at hhead
  simpa using hhead

theorem trims_trimEnds (p : α → Bool) (xs : List α) : Trims (p · = true) xs (trimEnds p xs) where
  parts := exists_eq_append_trimEnds p xs
  first := by
    intro x hx
    -- what is taken off at the back leaves the head as it is
    obtain ⟨rest, hrest⟩ : trimEnds p xs <+: xs.dropWhile p := List.rdropWhile_prefix p _
    have hhead : (xs.dropWhile p).head? = some x := by
      rw [← hrest, List.head?_append, hx, Option.some_or]
    exact not_of_head?_dropWhile hhead
  last := by
    intro x hx
    rw [trimEnds, List.getLast?_reverse] at hx
    exact not_of_head?_dropWhile hx

/-- No other part of the list is without edges. -/
theorem Trims.trimEnds_eq (h : Trims (p · = true) xs kept) : trimEnds p xs = kept := by
  obtain ⟨front, back, rfl, hfront, hback⟩ := h.parts
  rw [trimEnds, List.append_assoc, List.dropWhile_append_of_pos hfront]
  cases kept with
  | nil =>
      rw [List.nil_append, List.dropWhile_eq_nil_iff.mpr hback]
      rfl
  | cons x kept =>
      have hlast : (x :: kept).rdropWhile p = x :: kept :=
        List.rdropWhile_eq_self_iff.mpr fun hne => h.last _ (List.getLast?_eq_some_getLast hne)
      rw [List.cons_append, List.dropWhile_cons_of_neg (h.first x rfl), ← List.cons_append,
        List.reverse_append, List.dropWhile_append_of_pos fun y hy => hback y (List.mem_reverse.mp hy)]
      exact hlast

theorem trimEnds_eq_iff : trimEnds p xs = kept ↔ Trims (p · = true) xs kept :=
  ⟨fun h => h ▸ trims_trimEnds p xs, Trims.trimEnds_eq⟩

theorem trimEnds_eq_nil_iff : trimEnds p xs = [] ↔ ∀ x ∈ xs, p x := by
  rw [trimEnds_eq_iff, Trims.nil_iff]

theorem trimEnds_trimEnds (p : α → Bool) (xs : List α) :
    trimEnds p (trimEnds p xs) = trimEnds p xs :=
  (trims_trimEnds p xs).self.trimEnds_eq

/-! ## Two scans that meet -/

/-- Where a scan up from a place stops: at the bound, or before it at an element that fails the test. -/
def scanUp (p : α → Bool) (xs : List α) (start stop : Nat) : Nat :=
  if start < stop ∧ xs[start]?.any p then scanUp p xs (start + 1) stop else start
termination_by stop - start

/-- Where a scan down from a place stops: at the bound, or above it with an element right below that
fails the test. -/
def scanDown (p : α → Bool) (xs : List α) (start stop : Nat) : Nat :=
  if start < stop ∧ xs[stop - 1]?.any p then scanDown p xs start (stop - 1) else stop
termination_by stop

/-- Two places in a list, in order, outside of which all elements pass a test. -/
structure Encloses (p : α → Bool) (xs : List α) (start stop : Nat) : Prop where
  start_le : start ≤ stop
  stop_le : stop ≤ xs.length
  before : ∀ x ∈ xs.take start, p x
  behind : ∀ x ∈ xs.drop stop, p x

namespace Encloses

theorem whole (p : α → Bool) (xs : List α) : Encloses p xs 0 xs.length where
  start_le := Nat.zero_le _
  stop_le := Nat.le_refl _
  before := by simp
  behind := by simp

/-- One step up past an element that passes the test. -/
theorem up (h : Encloses p xs start stop) (hlt : start < stop) (hpass : xs[start]?.any p) :
    Encloses p xs (start + 1) stop where
  start_le := hlt
  stop_le := h.stop_le
  before := by
    intro x hx
    rw [List.take_add_one, List.mem_append, Option.mem_toList] at hx
    rcases hx with hx | hx
    · exact h.before x hx
    · rwa [hx] at hpass
  behind := h.behind

/-- One step down past an element that passes the test. -/
theorem down (h : Encloses p xs start stop) (hlt : start < stop) (hpass : xs[stop - 1]?.any p) :
    Encloses p xs start (stop - 1) where
  start_le := by omega
  stop_le := by have := h.stop_le; omega
  before := h.before
  behind := by
    have hinside : stop - 1 < xs.length := by have := h.stop_le; omega
    have hnext : stop - 1 + 1 = stop := by omega
    rw [List.getElem?_eq_getElem hinside] at hpass
    rw [List.drop_eq_getElem_cons hinside, hnext]
    exact List.forall_mem_cons.mpr ⟨hpass, h.behind⟩

theorem after_scanUp (h : Encloses p xs start stop) :
    Encloses p xs (scanUp p xs start stop) stop := by
  fun_induction scanUp p xs start stop with
  | case1 start hstep ih => exact ih (h.up hstep.1 hstep.2)
  | case2 start hstop => exact h

theorem after_scanDown (h : Encloses p xs start stop) :
    Encloses p xs start (scanDown p xs start stop) := by
  fun_induction scanDown p xs start stop with
  | case1 stop hstep ih => exact ih (h.down hstep.1 hstep.2)
  | case2 stop hstop => exact h

/-- Two places that cannot close in any further bound a part without edges. -/
theorem trims (h : Encloses p xs start stop) (hfirst : ¬ (start < stop ∧ xs[start]?.any p))
    (hlast : ¬ (start < stop ∧ xs[stop - 1]?.any p)) :
    Trims (p · = true) xs ((xs.take stop).drop start) where
  parts := by
    refine ⟨xs.take start, xs.drop stop, ?_, h.before, h.behind⟩
    have hfront : xs.take start = (xs.take stop).take start := by
      rw [List.take_take, Nat.min_eq_left h.start_le]
    rw [hfront, List.take_append_drop, List.take_append_drop]
  first := by
    intro x hx hpass
    rw [List.head?_drop, Option.mem_def, List.getElem?_take] at hx
    split at hx
    next hlt => exact hfirst ⟨hlt, by rw [hx]; exact hpass⟩
    next => cases hx
  last := by
    intro x hx hpass
    have hlength : (xs.take stop).length = stop := List.length_take_of_le h.stop_le
    rw [List.getLast?_eq_getElem?, List.length_drop, hlength, Option.mem_def, List.getElem?_drop,
      List.getElem?_take] at hx
    split at hx
    next hlt =>
      have hplace : start + (stop - start - 1) = stop - 1 := by omega
      rw [hplace] at hx
      exact hlast ⟨by omega, by rw [hx]; exact hpass⟩
    next => cases hx

end Encloses

/-- A scan up ends where it can go no further. -/
theorem scanUp_stops (p : α → Bool) (xs : List α) (start stop : Nat) :
    ¬ (scanUp p xs start stop < stop ∧ xs[scanUp p xs start stop]?.any p) := by
  fun_induction scanUp p xs start stop with
  | case1 start hstep ih => exact ih
  | case2 start hstop => exact hstop

theorem scanDown_stops (p : α → Bool) (xs : List α) (start stop : Nat) :
    ¬ (start < scanDown p xs start stop ∧ xs[scanDown p xs start stop - 1]?.any p) := by
  fun_induction scanDown p xs start stop with
  | case1 stop hstep ih => exact ih
  | case2 stop hstop => exact hstop

/-- The scan from the back starts at the end and goes down to where the scan from the front has stopped.
What lies between the two places is the list without its edges. -/
theorem trimEnds_eq_between (hstart : start = scanUp p xs 0 xs.length)
    (hstop : stop = scanDown p xs start xs.length) :
    start ≤ stop ∧ stop ≤ xs.length ∧ trimEnds p xs = (xs.take stop).drop start := by
  subst hstart hstop
  have hboth := (Encloses.whole p xs).after_scanUp.after_scanDown
  refine ⟨hboth.start_le, hboth.stop_le, (hboth.trims ?_ (scanDown_stops _ _ _ _)).trimEnds_eq⟩
  -- the scan down has not reopened what stopped the scan up
  rintro ⟨hlt, hpass⟩
  exact scanUp_stops p xs 0 xs.length ⟨Nat.lt_of_lt_of_le hlt hboth.stop_le, hpass⟩

end Lists

/-! ## Blank leaves -/

/-- A text leaf whose content is all blank. -/
def Node.BlankLeaf (n : Node) : Prop := ∃ content, n = .text content ∧ ∀ c ∈ content, c.isBlank

theorem Node.isBlankText_iff (n : Node) : n.isBlankText = true ↔ n.BlankLeaf := by
  cases n with
  | text content =>
      rw [isBlankText, Text.isBlank, List.all_eq_true]
      exact ⟨fun h => ⟨content, rfl, h⟩, fun ⟨_, heq, h⟩ => Node.text.inj heq ▸ h⟩
  | element kind tag attrs cs => exact ⟨nofun, fun ⟨_, heq, _⟩ => nomatch heq⟩

/-- A leaf is blank just if nothing is left of its content when that is trimmed. -/
theorem Node.blankLeaf_text_iff (content : Text) : (text content).BlankLeaf ↔ content.trim = [] := by
  rw [← isBlankText_iff, isBlankText, Text.isBlank, List.all_eq_true, Text.trim, trimEnds_eq_nil_iff]

theorem trims_blankText_iff {ns kept : List Node} :
    Trims (·.isBlankText = true) ns kept ↔ Trims Node.BlankLeaf ns kept := by
  have htest : (fun n : Node => n.isBlankText = true) = Node.BlankLeaf := by
    funext n
    exact propext n.isBlankText_iff
  rw [htest]

/-- Trimming gives the one contiguous part of a list of nodes with only blank leaves before and behind it
and none at its own ends. The two scans find its bounds, which are in order. Nothing is left just if all
nodes are blank leaves, and trimming again changes nothing. -/
theorem trimBlankNodes_edges (ns : List Node) :
    (∀ kept, trimBlankNodes ns = kept ↔ Trims Node.BlankLeaf ns kept) ∧
      (∃ start stop, start = scanUp Node.isBlankText ns 0 ns.length ∧
        stop = scanDown Node.isBlankText ns start ns.length ∧ start ≤ stop ∧ stop ≤ ns.length ∧
          trimBlankNodes ns = (ns.take stop).drop start) ∧
      (trimBlankNodes ns = [] ↔ ∀ n ∈ ns, n.BlankLeaf) ∧
      trimBlankNodes (trimBlankNodes ns) = trimBlankNodes ns := by
  have hpart (kept : List Node) : trimBlankNodes ns = kept ↔ Trims Node.BlankLeaf ns kept :=
    trimEnds_eq_iff.trans trims_blankText_iff
  refine ⟨hpart, ⟨_, _, rfl, rfl, trimEnds_eq_between rfl rfl⟩, ?_, trimEnds_trimEnds _ ns⟩
  rw [hpart, Trims.nil_iff]

/-- A blank leaf between two others stays. -/
example : trimBlankNodes [.text " \n", .text "a", .text "\n", .text "b", .text ""] =
    [.text "a", .text "\n", .text "b"] :=
  rfl

end MarkTex
