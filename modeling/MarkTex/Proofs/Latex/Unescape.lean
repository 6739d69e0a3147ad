import MarkTex.Proofs.Latex.Escape

/-!
# Reading escaped text back

Braces are not escaped and a text may hold replacements from the beginning, so escaped text is read from
left to right: no replacement begins another one, and none begins with a code point that stands for
itself. `unescape?` reads in this way, and what it accepts is escaped text and nothing else. Where other
text follows that no replacement begins, the place where the escaped text ends is found as well:
`escape_append_cancel`.
-/

namespace MarkTex.Latex

/-! ## Reading -/

/-- The rule whose replacement stands at the beginning of a text. -/
def ruleAt? (s : Text) : Option (Char × Text) :=
  specials.find? fun rule => rule.2.isPrefixOf s

/-- The text that was escaped, with `skip` code points still to pass over because they belong to the
replacement found before them. A special character that begins no replacement is refused. -/
def unescapeFrom? (skip : Nat) : Text → Option Text
  | [] => some []
  | x :: rest =>
    match skip with
    | n + 1 => unescapeFrom? n rest
    | 0 =>
      match ruleAt? (x :: rest) with
      | some rule => (unescapeFrom? (rule.2.length - 1) rest).map (.scalar rule.1 :: ·)
      | none => if x ∈ specialCodePoints then none else (unescapeFrom? 0 rest).map (x :: ·)

/-- The text that was escaped, if a text is an escaped one. -/
def unescape? (s : Text) : Option Text := unescapeFrom? 0 s

/-! ## Which replacement stands at the beginning -/

theorem prefixFree_specials :
    ∀ rule ∈ specials, ∀ other ∈ specials, rule.2 <+: other.2 → rule = other := by
  decide

theorem exists_eq_cons_of_mem_specials {rule : Char × Text} (h : rule ∈ specials) :
    ∃ x ∈ specialCodePoints, ∃ tail, rule.2 = x :: tail := by
  have hall : ∀ rule ∈ specials, ∃ x ∈ specialCodePoints, rule.2 = x :: rule.2.tail := by decide
  obtain ⟨x, hx, heq⟩ := hall rule h
  exact ⟨x, hx, _, heq⟩

theorem ruleAt?_eq_some {s : Text} {rule : Char × Text} (h : ruleAt? s = some rule) :
    rule ∈ specials ∧ rule.2 <+: s := by
  rw [ruleAt?] at h
  have hbegins := List.find?_some h
  exact ⟨List.mem_of_find?_eq_some h, List.isPrefixOf_iff_prefix.mp hbegins⟩

theorem ruleAt?_replacement {rule : Char × Text} (h : rule ∈ specials) (rest : Text) :
    ruleAt? (rule.2 ++ rest) = some rule := by
  have hprefix : rule.2 <+: rule.2 ++ rest := List.prefix_append rule.2 rest
  obtain ⟨found, hfound⟩ : ∃ found, ruleAt? (rule.2 ++ rest) = some found :=
    Option.isSome_iff_exists.mp
      (List.find?_isSome.mpr ⟨rule, h, List.isPrefixOf_iff_prefix.mpr hprefix⟩)
  obtain ⟨hmem, hfirst⟩ := ruleAt?_eq_some hfound
  rw [hfound]
  rcases List.prefix_or_prefix_of_prefix hfirst hprefix with hshorter | hlonger
  · rw [prefixFree_specials found hmem rule h hshorter]
  · rw [prefixFree_specials rule h found hmem hlonger]

theorem ruleAt?_of_notMem {x : CodePoint} (hx : x ∉ specialCodePoints) (rest : Text) :
    ruleAt? (x :: rest) = none := by
  refine Option.eq_none_iff_forall_ne_some.mpr fun rule hrule => ?_
  obtain ⟨hmem, hprefix⟩ := ruleAt?_eq_some hrule
  obtain ⟨y, hy, tail, heq⟩ := exists_eq_cons_of_mem_specials hmem
  rw [heq] at hprefix
  exact hx ((List.cons_prefix_cons.mp hprefix).1 ▸ hy)

/-! ## Reading replacement by replacement -/

theorem unescapeFrom?_passed (a rest : Text) :
    unescapeFrom? a.length (a ++ rest) = unescapeFrom? 0 rest := by
  induction a with
  | nil => rfl
  | cons x a ih => exact ih

theorem unescape?_replacement {rule : Char × Text} (h : rule ∈ specials) (rest : Text) :
    unescape? (rule.2 ++ rest) = (unescape? rest).map (.scalar rule.1 :: ·) := by
  obtain ⟨x, _, tail, heq⟩ := exists_eq_cons_of_mem_specials h
  have hat := ruleAt?_replacement h rest
  rw [heq, List.cons_append] at hat
  rw [heq, List.cons_append]
  simp only [unescape?, unescapeFrom?, hat, heq, List.length_cons, Nat.add_sub_cancel,
    unescapeFrom?_passed]

theorem unescape?_plain {x : CodePoint} (hx : x ∉ specialCodePoints) (rest : Text) :
    unescape? (x :: rest) = (unescape? rest).map (x :: ·) := by
  simp only [unescape?, unescapeFrom?, ruleAt?_of_notMem hx, if_neg hx]

theorem unescape?_escape (t : Text) : unescape? (escape t) = some t := by
  induction t with
  | nil => rfl
  | cons x t ih =>
      rw [escape_cons]
      rcases replacement_cases x with ⟨hx, heq⟩ | ⟨rule, hrule, rfl, heq⟩
      · rw [heq, List.singleton_append, unescape?_plain hx, ih, Option.map_some]
      · rw [heq, unescape?_replacement hrule, ih, Option.map_some]

theorem eq_escape_of_unescape? {s t : Text} (h : unescape? s = some t) : s = escape t := by
  induction hlength : s.length using Nat.strongRecOn generalizing s t with
  | ind length ih =>
    subst hlength
    cases s with
    | nil =>
        cases h
        rfl
    | cons x rest =>
        cases hat : ruleAt? (x :: rest) with
        | some rule =>
            obtain ⟨hrule, tail, htail⟩ := ruleAt?_eq_some hat
            have hshorter : tail.length < (x :: rest).length := by
              obtain ⟨y, _, inner, heq⟩ := exists_eq_cons_of_mem_specials hrule
              rw [← htail, heq, List.cons_append, List.length_cons, List.length_append]
              omega
            rw [← htail, unescape?_replacement hrule] at h
            obtain ⟨t', ht', rfl⟩ := Option.map_eq_some_iff.mp h
            rw [← htail, escape_cons, replacement_of_mem hrule, ← ih _ hshorter ht' rfl]
        | none =>
            by_cases hx : x ∈ specialCodePoints
            · simp only [unescape?, unescapeFrom?, hat, if_pos hx, reduceCtorEq] at h
            · rw [unescape?_plain hx] at h
              obtain ⟨t', ht', rfl⟩ := Option.map_eq_some_iff.mp h
              rw [escape_cons, replacement_of_notMem hx,
                ← ih _ (Nat.lt_succ_self _) ht' rfl, List.singleton_append]

/-- Escaping loses nothing: escaped text, and no other, is read back, as the text that was escaped. So two
texts are never escaped alike, whatever commands and replacements they hold. -/
theorem escape_lossless :
    (∀ s t : Text, unescape? s = some t ↔ s = escape t) ∧
      (∃ decode : Text → Text, ∀ t, decode (escape t) = t) ∧ Function.Injective escape := by
  have hdecode : Function.LeftInverse (fun s => (unescape? s).getD []) escape := by
    intro t
    simp only [unescape?_escape, Option.getD_some]
  refine ⟨fun s t => ⟨eq_escape_of_unescape?, fun hs => ?_⟩, ⟨fun s => (unescape? s).getD [], hdecode⟩,
    hdecode.injective⟩
  rw [hs, unescape?_escape]

/-- A text that is itself the replacement of a backslash is not taken for an escaped one. -/
example : escape (Text.ofString "\\textbackslash\x7b\x7d") ≠ escape (Text.ofString "\\") := by
  decide

/-! ## Escaped text before other text -/

/-- The replacement of no code point stands at the beginning of a text. -/
def StopsReading (t : Text) : Prop := ∀ x rest, t ≠ replacement x ++ rest

theorem stopsReading_of_special {y : CodePoint} (hy : y ∈ specialCodePoints) {rest : Text}
    (hat : ruleAt? (y :: rest) = none) : StopsReading (y :: rest) := by
  intro x rest' h
  rcases replacement_cases x with ⟨hx, heq⟩ | ⟨rule, hrule, rfl, heq⟩
  · rw [heq, List.singleton_append] at h
    exact hx ((List.cons.inj h).1 ▸ hy)
  · rw [heq] at h
    rw [h, ruleAt?_replacement hrule] at hat
    cases hat

theorem replacement_append_cancel {x y : CodePoint} {a b : Text}
    (h : replacement x ++ a = replacement y ++ b) : x = y ∧ a = b := by
  have hread : ruleAt? (replacement x ++ a) = ruleAt? (replacement y ++ b) := congrArg ruleAt? h
  rcases replacement_cases x with ⟨hx, heq⟩ | ⟨rule, hrule, rfl, heq⟩ <;>
    rcases replacement_cases y with ⟨hy, heq'⟩ | ⟨rule', hrule', rfl, heq'⟩ <;>
      rw [heq, heq'] at h hread
  · simpa using h
  · rw [List.singleton_append, ruleAt?_of_notMem hx, ruleAt?_replacement hrule'] at hread
    cases hread
  · rw [List.singleton_append, ruleAt?_of_notMem hy, ruleAt?_replacement hrule] at hread
    cases hread
  · rw [ruleAt?_replacement hrule, ruleAt?_replacement hrule'] at hread
    cases hread
    exact ⟨rfl, List.append_cancel_left h⟩

/-- Escaped text is cut off in only one way from what stops the reading. -/
theorem escape_append_cancel {s t a b : Text} (ha : StopsReading a) (hb : StopsReading b)
    (h : escape s ++ a = escape t ++ b) : s = t ∧ a = b := by
  induction s generalizing t with
  | nil =>
      cases t with
      | nil => exact ⟨rfl, h⟩
      | cons y t =>
          rw [escape_cons, List.append_assoc] at h
          exact absurd h (ha y _)
  | cons x s ih =>
      cases t with
      | nil =>
          rw [escape_cons, List.append_assoc] at h
          exact absurd h.symm (hb x _)
      | cons y t =>
          rw [escape_cons, escape_cons, List.append_assoc, List.append_assoc] at h
          obtain ⟨rfl, hrest⟩ := replacement_append_cancel h
          obtain ⟨rfl, hab⟩ := ih hrest
          exact ⟨rfl, hab⟩

end MarkTex.Latex
