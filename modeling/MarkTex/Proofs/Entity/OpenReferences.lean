import MarkTex.Entity.Reference

/-!
# References without a semicolon

The lenient reading also takes some references that no semicolon closes, and in characters without a
semicolon these are the only ones. Such characters are decoded to themselves if no such reference
begins among them, and to fewer characters if one does: `shrinksIf_decode`.
-/

namespace MarkTex

/-! ## Replacement that makes shorter -/

/-- A list stays as it is unless something in it is replaced, and then it gets shorter. -/
def ShrinksIf {α : Type} (replaced : Bool) (before after : List α) : Prop :=
  if replaced then after.length < before.length else after = before

namespace ShrinksIf

variable {α β : Type} {replaced replaced' : Bool} {before before' after after' : List α}

theorem refl (l : List α) : ShrinksIf false l l := rfl

theorem length_le (h : ShrinksIf replaced before after) : after.length ≤ before.length := by
  cases replaced with
  | false => exact Nat.le_of_eq (congrArg List.length h)
  | true => exact Nat.le_of_lt h

theorem eq_iff (h : ShrinksIf replaced before after) : after = before ↔ replaced = false := by
  cases replaced with
  | false => exact iff_of_true h rfl
  | true =>
      refine iff_of_false (fun heq => ?_) Bool.noConfusion
      rw [heq] at h
      exact Nat.lt_irrefl _ h

theorem append (h : ShrinksIf replaced before after) (h' : ShrinksIf replaced' before' after') :
    ShrinksIf (replaced || replaced') (before ++ before') (after ++ after') := by
  have hle := h.length_le
  have hle' := h'.length_le
  cases replaced <;> cases replaced' <;>
    simp only [ShrinksIf, Bool.or_true, Bool.or_false, Bool.or_self, if_true, List.length_append,
      Bool.false_eq_true, if_false] at h h' ⊢
  · rw [h, h']
  all_goals omega

theorem map (h : ShrinksIf replaced before after) (g : α → β) :
    ShrinksIf replaced (before.map g) (after.map g) := by
  cases replaced with
  | false => exact congrArg (List.map g) h
  | true => simpa [ShrinksIf] using h

theorem flatMap {test : β → Bool} {f g : β → List α} {xs : List β}
    (h : ∀ x ∈ xs, ShrinksIf (test x) (f x) (g x)) :
    ShrinksIf (xs.any test) (xs.flatMap f) (xs.flatMap g) := by
  induction xs with
  | nil => exact refl []
  | cons x xs ih =>
      obtain ⟨hx, hxs⟩ := List.forall_mem_cons.mp h
      exact hx.append (ih hxs)

end ShrinksIf

namespace Entity

/-! ## References that begin -/

/-- Whether a reference that needs no semicolon begins behind an ampersand. -/
def opensReference : List Char → Bool
  | '#' :: 'x' :: ds => ds.head?.any isHexDigit
  | '#' :: 'X' :: ds => ds.head?.any isHexDigit
  | '#' :: ds => ds.head?.any Char.isDigit
  | rest => unterminatedNames.any fun name => name.toList.isPrefixOf rest

/-- Whether a reference that needs no semicolon begins somewhere. -/
def holdsReference : List Char → Bool
  | [] => false
  | c :: rest => (c == '&' && opensReference rest) || holdsReference rest

/-- Only an ampersand begins a reference. -/
theorem holdsReference_append {a : List Char} (h : '&' ∉ a) (b : List Char) :
    holdsReference (a ++ b) = holdsReference b := by
  induction a with
  | nil => rfl
  | cons c a ih =>
      simp only [List.mem_cons, not_or] at h
      simp [holdsReference, Ne.symm h.1, ih h.2]

/-! ## Names -/

theorem length_of_named? {name value : String} (h : named? name = some value) :
    value.toList.length ≤ 2 := by
  have hall : ∀ entry ∈ names, entry.2.toList.length ≤ 2 := by decide +kernel
  obtain ⟨entry, hfind, rfl⟩ := Option.map_eq_some_iff.mp h
  exact hall entry (List.mem_of_find?_eq_some hfind)

theorem exists_named? {name : String} (h : name ∈ unterminatedNames) :
    ∃ value, named? name = some value := by
  have hsub : unterminatedNames.Sublist (names.map (·.1)) := by decide +kernel
  obtain ⟨entry, hmem, rfl⟩ := List.mem_map.mp (hsub.subset h)
  have hsome : (names.find? (·.1 == entry.1)).isSome :=
    List.find?_isSome.mpr ⟨entry, hmem, beq_self_eq_true entry.1⟩
  obtain ⟨found, hfound⟩ := Option.isSome_iff_exists.mp hsome
  exact ⟨found.2, by rw [named?, hfound]; rfl⟩

theorem shape_of_unterminated : ∀ name ∈ unterminatedNames,
    2 ≤ name.toList.length ∧ name.toList.length ≤ 32 ∧ ∀ c ∈ name.toList, isNameChar c := by
  have hall : (unterminatedNames.all fun name => decide (2 ≤ name.toList.length) &&
      decide (name.toList.length ≤ 32) && name.toList.all isNameChar) = true := by decide +kernel
  simpa [and_assoc] using hall

/-- A name that is known without a semicolon stands at the beginning. -/
def BeginsName (rest : List Char) : Prop := ∃ name ∈ unterminatedNames, name.toList <+: rest

theorem BeginsName.mono {a b : List Char} (h : BeginsName a) (hab : a <+: b) : BeginsName b := by
  obtain ⟨name, hmem, hinitial⟩ := h
  exact ⟨name, hmem, hinitial.trans hab⟩

/-- Without a semicolon at its end only the names that need none are known. -/
theorem exactName?_of_notMem {name : List Char} (h : ';' ∉ name) :
    exactName? name = if unterminatedNames.contains (String.ofList name) then
      (named? (String.ofList name)).map String.toList else none := by
  rw [exactName?]
  split
  next rest heq => exact absurd (List.mem_reverse.mp (heq ▸ List.mem_cons_self)) h
  next => rfl

theorem beginsName_of_exactName? {name value : List Char} (h : ';' ∉ name)
    (hvalue : exactName? name = some value) :
    BeginsName name ∧ value.length ≤ 2 ∧ 2 ≤ name.length := by
  rw [exactName?_of_notMem h] at hvalue
  split at hvalue
  next hknown =>
    obtain ⟨found, hfound, rfl⟩ := Option.map_eq_some_iff.mp hvalue
    have hmem := List.contains_iff_mem.mp hknown
    have hshape := shape_of_unterminated _ hmem
    rw [String.toList_ofList] at hshape
    have hbegins : BeginsName name :=
      ⟨_, hmem, String.toList_ofList.symm ▸ List.prefix_refl name⟩
    exact ⟨hbegins, length_of_named? hfound, hshape.1⟩
  next => cases hvalue

theorem exactName?_of_mem {name : String} (h : name ∈ unterminatedNames) :
    ∃ value, exactName? name.toList = some value := by
  have hclean : ';' ∉ name.toList := fun hmem =>
    absurd ((shape_of_unterminated name h).2.2 _ hmem) (by decide)
  obtain ⟨value, hvalue⟩ := exists_named? h
  exact ⟨value.toList, by simp [exactName?_of_notMem hclean, h, hvalue]⟩

/-- How a longest known beginning is found: there is none, or it stands for two characters at
most. -/
theorem longestName?_cases {name : List Char} (h : ';' ∉ name) (n : Nat) (hn : n ≤ name.length) :
    (longestName? name n = none ∧ ∀ k ≤ n, 2 ≤ k → exactName? (name.take k) = none) ∨
      ∃ value, longestName? name n = some value ∧ BeginsName name ∧ value.length ≤ name.length := by
  induction n with
  | zero => exact .inl ⟨rfl, fun k hk hk' => absurd hk (by omega)⟩
  | succ n ih =>
      cases n with
      | zero => exact .inl ⟨rfl, fun k hk hk' => absurd hk (by omega)⟩
      | succ n =>
          rw [longestName?]
          cases hexact : exactName? (name.take (n + 2)) with
          | some value =>
              obtain ⟨hbegins, hvalue, _⟩ := beginsName_of_exactName?
                (fun hmem => h (List.mem_of_mem_take hmem)) hexact
              refine .inr ⟨_, rfl, hbegins.mono (List.take_prefix _ _), ?_⟩
              rw [List.length_append, List.length_drop]
              omega
          | none =>
              refine (ih (by omega)).imp_left fun ⟨hnone, hall⟩ => ⟨hnone, fun k hk hk' => ?_⟩
              rcases Nat.lt_or_eq_of_le hk with hlt | rfl
              · exact hall k (by omega) hk'
              · exact hexact

/-- What a name without a semicolon stands for: itself, or no more characters than it has if one that
needs no semicolon begins it. -/
theorem byName_cases {name : List Char} (h : ';' ∉ name) :
    (byName name = '&' :: name ∧ ¬ BeginsName name) ∨
      (BeginsName name ∧ (byName name).length ≤ name.length) := by
  rw [byName]
  cases hexact : exactName? name with
  | some value =>
      obtain ⟨hbegins, hvalue, hname⟩ := beginsName_of_exactName? h hexact
      exact .inr ⟨hbegins, by dsimp only; omega⟩
  | none =>
      rcases longestName?_cases h (name.length - 1) (by omega) with
        ⟨hnone, hall⟩ | ⟨value, hvalue, hbegins, hlength⟩
      · refine .inl ⟨by rw [hnone]; rfl, ?_⟩
        rintro ⟨known, hmem, hinitial⟩
        obtain ⟨value, hvalue⟩ := exactName?_of_mem hmem
        have htake := List.prefix_iff_eq_take.mp hinitial
        have hlength := (shape_of_unterminated known hmem).1
        rcases Nat.lt_or_eq_of_le hinitial.length_le with hlt | heq
        · rw [htake, hall _ (by omega) hlength] at hvalue
          cases hvalue
        · rw [hinitial.eq_of_length heq, hexact] at hvalue
          cases hvalue
      · exact .inr ⟨hbegins, by rw [hvalue]; exact hlength⟩

/-! ## One reference -/

theorem length_byNumber_le (n : Nat) : (byNumber n).length ≤ 1 := by
  unfold byNumber
  repeat' split
  all_goals simp

/-- What is read behind an ampersand, with how many characters it takes: nothing, a name that stands
for itself, or a reference that needs no semicolon. -/
inductive ReadOpen (rest : List Char) : Option (List Char × Nat) → Prop
  | nothing : opensReference rest = false → ReadOpen rest none
  | itself {n : Nat} : opensReference rest = false → '&' ∉ rest.take n →
      ReadOpen rest (some ('&' :: rest.take n, n))
  | reference {cs : List Char} {n : Nat} : opensReference rest = true → cs.length ≤ n →
      n ≤ rest.length → ReadOpen rest (some (cs, n))

/-- No semicolon ends a reference where there is none. -/
theorem finish_of_notMem {rest : List Char} (h : ';' ∉ rest) (taken : Nat)
    (value : Bool → List Char) : finish .lenient rest taken value = some (value false, taken) := by
  rw [finish]
  split
  next heq => exact absurd (List.mem_of_mem_drop (heq ▸ List.mem_cons_self)) h
  next => rfl

/-- A reference by number is read as soon as one digit is there. -/
theorem readOpen_digits {rest ds : List Char} {test : Char → Bool} {n : Nat} (hn : 1 ≤ n)
    (hlength : ds.length + n ≤ rest.length) (hopens : opensReference rest = ds.head?.any test)
    (h : ';' ∉ rest) (value : List Char → Nat) :
    ReadOpen rest (if (ds.takeWhile test).isEmpty then none
      else finish .lenient rest ((ds.takeWhile test).length + n)
        fun _ => byNumber (value (ds.takeWhile test))) := by
  cases ds with
  | nil => exact .nothing hopens
  | cons d ds =>
      cases hd : test d with
      | false =>
          rw [List.takeWhile_cons_of_neg (by simp [hd])]
          exact .nothing (hopens.trans hd)
      | true =>
          have hle := (List.takeWhile_sublist test (l := d :: ds)).length_le
          rw [if_neg (by simp [hd]), finish_of_notMem h]
          refine .reference (hopens.trans hd) ?_ (by omega)
          exact Nat.le_trans (length_byNumber_le _) (by omega)

/-- The name that is tried behind an ampersand. -/
def triedName (rest : List Char) : List Char := (rest.takeWhile isNameChar).take 32

theorem triedName_isInitial (rest : List Char) : triedName rest <+: rest :=
  (List.take_prefix _ _).trans (List.takeWhile_prefix _)

theorem notMem_triedName {c : Char} (hc : isNameChar c = false) (rest : List Char) :
    c ∉ triedName rest := by
  intro hmem
  have htrue := List.all_eq_true.mp List.all_takeWhile c (List.mem_of_mem_take hmem)
  rw [hc] at htrue
  cases htrue

/-- The name that is tried is long enough for all names that need no semicolon. -/
theorem beginsName_triedName_iff (rest : List Char) :
    BeginsName (triedName rest) ↔ BeginsName rest := by
  refine ⟨fun h => h.mono (triedName_isInitial rest), ?_⟩
  rintro ⟨name, hmem, tail, rfl⟩
  obtain ⟨_, hlength, hchars⟩ := shape_of_unterminated name hmem
  refine ⟨name, hmem, ?_⟩
  rw [triedName, List.takeWhile_append_of_pos hchars, List.take_append, List.take_of_length_le hlength]
  exact List.prefix_append _ _

theorem readOpen_name {rest : List Char} (hopens : opensReference rest = true ↔ BeginsName rest)
    (h : ';' ∉ rest) :
    ReadOpen rest (if (triedName rest).isEmpty then none
      else finish .lenient rest (triedName rest).length fun closed =>
        byName (if closed then triedName rest ++ [';'] else triedName rest)) := by
  rw [← beginsName_triedName_iff] at hopens
  have hinitial := triedName_isInitial rest
  have hitself : ¬ BeginsName (triedName rest) → opensReference rest = false :=
    fun hnone => Bool.eq_false_iff.mpr (hnone ∘ hopens.mp)
  split
  next hempty =>
    refine .nothing (hitself ?_)
    rintro ⟨name, hmem, hname⟩
    have hlength := (shape_of_unterminated name hmem).1
    rw [List.isEmpty_iff.mp hempty, List.prefix_nil.mp hname] at *
    simp at hlength
  next =>
    rw [finish_of_notMem h, if_neg Bool.false_ne_true]
    rcases byName_cases (notMem_triedName (by decide) rest) with ⟨hsame, hnone⟩ | ⟨hbegins, hle⟩
    · have hamp : '&' ∉ rest.take (triedName rest).length := by
        rw [← List.prefix_iff_eq_take.mp hinitial]
        exact notMem_triedName (by decide) rest
      have hread := ReadOpen.itself (hitself hnone) hamp
      rwa [← List.prefix_iff_eq_take.mp hinitial, ← hsame] at hread
    · exact .reference (hopens.mpr hbegins) hle hinitial.length_le

/-- Without semicolons, what is read behind an ampersand is told by what begins there. -/
theorem readOpen {rest : List Char} (h : ';' ∉ rest) :
    ReadOpen rest (referenceAt? .lenient rest) := by
  unfold referenceAt?
  split
  next ds => exact readOpen_digits (by omega) (by simp) rfl h (digitsValue 16)
  next ds => exact readOpen_digits (by omega) (by simp) rfl h (digitsValue 16)
  next ds hx hX =>
    simp only [reduceCtorEq, false_and, or_false]
    refine readOpen_digits (by omega) (by simp) ?_ h (digitsValue 10)
    rw [opensReference]
    · exact hx
    · exact hX
  next hx hX hhash =>
    refine readOpen_name ?_ h
    rw [opensReference]
    · simp [BeginsName]
    · exact hx
    · exact hX
    · exact hhash

/-! ## All references -/

theorem decodeFrom_eq_decode_drop (r : Reading) (n : Nat) (cs : List Char) :
    decodeFrom r n cs = decode r (cs.drop n) := by
  induction cs generalizing n with
  | nil => rw [List.drop_nil]; rfl
  | cons c cs ih =>
      cases n with
      | zero => rfl
      | succ n => exact ih n

theorem decode_cons (r : Reading) (c : Char) (rest : List Char) :
    decode r (c :: rest) = match if c = '&' then referenceAt? r rest else none with
      | some (cs, taken) => cs ++ decode r (rest.drop taken)
      | none => c :: decode r rest := by
  rw [decode, decodeFrom]
  simp only [decodeFrom_eq_decode_drop]
  rfl

/-- Without semicolons, characters among which no reference begins are decoded to themselves, and all
others to fewer characters. -/
theorem shrinksIf_decode {cs : List Char} (h : ';' ∉ cs) :
    ShrinksIf (holdsReference cs) cs (decode .lenient cs) := by
  -- a reference takes characters behind its ampersand, so the induction is on how many there are
  induction hn : cs.length using Nat.strongRecOn generalizing cs with
  | ind n ih =>
  subst hn
  cases cs with
  | nil => exact .refl []
  | cons c rest =>
      have hrest : ';' ∉ rest := fun hmem => h (List.mem_cons_of_mem c hmem)
      have hdrop : ∀ n, ShrinksIf (holdsReference (rest.drop n)) (rest.drop n)
          (decode .lenient (rest.drop n)) := fun n =>
        ih _ (by simp only [List.length_drop, List.length_cons]; omega)
          (fun hmem => hrest (List.mem_of_mem_drop hmem)) rfl
      rw [decode_cons, holdsReference]
      by_cases hc : c = '&'
      · subst hc
        have hopen := readOpen hrest
        generalize referenceAt? .lenient rest = result at hopen
        cases hopen with
        | nothing hopens =>
            rw [hopens]
            exact (ShrinksIf.refl ['&']).append (hdrop 0)
        | @itself n hopens hamp =>
            have hshrinks := (ShrinksIf.refl ('&' :: rest.take n)).append (hdrop n)
            rw [← holdsReference_append hamp, List.cons_append, List.take_append_drop] at hshrinks
            rw [hopens]
            exact hshrinks
        | @reference cs n hopens hle hn =>
            rw [hopens]
            have hbehind := (hdrop n).length_le
            simp only [ShrinksIf, beq_self_eq_true, Bool.true_and, Bool.true_or, if_true,
              List.length_append, List.length_cons, List.length_drop] at hbehind ⊢
            omega
      · rw [if_neg hc, beq_eq_false_iff_ne.mpr hc]
        exact (ShrinksIf.refl [c]).append (hdrop 0)

end Entity

end MarkTex
