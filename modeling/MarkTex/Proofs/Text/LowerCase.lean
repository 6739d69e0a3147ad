import MarkTex.Text.Case

/-!
# Letters in lower case

On ASCII the lower-case form of a text is that of its letters, one by one, and hardly anything beyond
ASCII has a lower-case form within it: `ascii_of_lowerCase`.
-/

namespace MarkTex

/-- What holds of every number below 128 holds of every character of ASCII. -/
theorem forall_ascii {P : Char → Prop} (h : ∀ n < 0x80, P (Char.ofNat n)) {c : Char}
    (hc : c.toNat < 0x80) : P c := by
  have hn := h c.toNat hc
  rwa [Char.ofNat_toNat] at hn

theorem isAlpha_of_isUpper {c : Char} (h : c.isUpper) : c.isAlpha :=
  Bool.or_eq_true_iff.mpr (.inl h)

theorem toNat_lt_of_isAlpha {c : Char} (h : c.isAlpha) : c.toNat < 0x80 := by
  have hrange : (decide (0x41 ≤ c.val ∧ c.val ≤ 0x5A) ||
      (decide (0x61 ≤ c.val) && decide (c.val ≤ 0x7A))) = true := h
  simp only [Bool.or_eq_true, Bool.and_eq_true, decide_eq_true_eq, UInt32.le_iff_toNat_le] at hrange
  change (0x41 ≤ c.toNat ∧ c.toNat ≤ 0x5A) ∨ (0x61 ≤ c.toNat ∧ c.toNat ≤ 0x7A) at hrange
  omega

/-! ## Characters beyond ASCII -/

/-- Beyond ASCII the lower-case form within ASCII changes nothing. -/
theorem toLower_eq_self {c : Char} (hc : 0x80 ≤ c.toNat) : c.toLower = c := by
  delta Char.toLower
  split
  next hupper =>
    have hbelow := toNat_lt_of_isAlpha (isAlpha_of_isUpper (decide_eq_true hupper))
    omega
  next => rfl

/-- What is the same for a letter of ASCII in either case is so for every character. -/
theorem eq_toLower_of_ascii {β : Type} {f : Char → β}
    (h : ∀ n < 0x80, f (Char.ofNat n).toLower = f (Char.ofNat n)) (c : Char) : f c.toLower = f c := by
  rcases Nat.lt_or_ge c.toNat 0x80 with hascii | hbeyond
  · exact forall_ascii (P := fun c => f c.toLower = f c) h hascii
  · rw [toLower_eq_self hbeyond]

theorem toNat_ofNat_or (n : Nat) : (Char.ofNat n).toNat = n ∨ Char.ofNat n = '\x00' := by
  by_cases hvalid : n.isValidChar
  · rw [Char.ofNat, dif_pos hvalid]
    exact .inl rfl
  · rw [Char.ofNat, dif_neg hvalid]
    exact .inr rfl

/-- Beyond ASCII the rows lead to no character of ASCII but from the Kelvin sign to its letter, with
the null character for a number of no character. -/
theorem mapByRows_of_ascii {c : Char} (hc : 0x80 ≤ c.toNat)
    (h : (mapByRows lowerRows c).toNat < 0x80) : mapByRows lowerRows c ∈ ['k', '\x00'] := by
  have hrows : ∀ r ∈ lowerRows, r.2.1 < 0x80 ∨ 0x80 ≤ (r.1 : Int) + r.2.2.2 ∨
      r.1 = 0x212A ∧ r.2.1 = 0x212A ∧ r.2.2.2 = -8383 := by decide +kernel
  rw [mapByRows] at h ⊢
  split at h
  next r hfind =>
    have hr := List.find?_some hfind
    simp only [Bool.and_eq_true, decide_eq_true_eq] at hr
    rcases toNat_ofNat_or (c.toNat + r.2.2.2).toNat with hvalue | hnull
    · rw [hvalue] at h
      rcases hrows r (List.mem_of_find?_eq_some hfind) with hascii | hbeyond | ⟨hfirst, hlast, hstep⟩
      · omega
      · omega
      · have hkelvin : c.toNat = 0x212A := by omega
        simp only [hkelvin, hstep]
        decide
    · rw [hnull]
      exact List.mem_cons_of_mem _ List.mem_cons_self
  next => omega

/-- A character whose lower-case form is within ASCII is of ASCII itself, with two exceptions in the
form. -/
theorem ascii_of_lowerChar {c : Char} (h : ∀ d ∈ lowerChar c, d.toNat < 0x80 ∧ d ∉ ['k', '\x00']) :
    c.toNat < 0x80 := by
  unfold lowerChar at h
  split at h
  next hascii => exact hascii
  next hascii =>
    split at h
    next => exact absurd (h _ (List.mem_cons_of_mem _ List.mem_cons_self)).1 (by decide)
    next =>
      obtain ⟨hbelow, hother⟩ := h _ List.mem_cons_self
      exact absurd (mapByRows_of_ascii (by omega) hbelow) hother

theorem isUpper_of_mem_lowerChar {c d : Char} (h : d ∈ lowerChar c) : d.isUpper = false := by
  unfold lowerChar at h
  split at h
  next hascii =>
    rw [List.mem_singleton.mp h]
    exact forall_ascii (P := fun c => c.toLower.isUpper = false) (by decide) hascii
  next hascii =>
    split at h
    next =>
      rcases List.mem_cons.mp h with rfl | h
      · decide
      · rw [List.mem_singleton.mp h]
        decide
    next =>
      rw [List.mem_singleton.mp h]
      refine Bool.eq_false_iff.mpr fun hupper => ?_
      have hlimit := mapByRows_of_ascii (by omega) (toNat_lt_of_isAlpha (isAlpha_of_isUpper hupper))
      have hlower : ∀ d ∈ ['k', '\x00'], d.isUpper = false :=
        List.forall_mem_cons.mpr ⟨rfl, List.forall_mem_singleton.mpr rfl⟩
      exact absurd hupper (by rw [hlower _ hlimit]; exact Bool.false_ne_true)

/-! ## Texts -/

/-- What the first character of a text becomes: its form, or one of two for a sigma. -/
theorem lowerCase_go_cons (before : List Char) (c : Char) (cs : List Char) : ∃ form,
    lowerCase.go before (c :: cs) = form ++ lowerCase.go (c :: before) cs ∧
      (c.toNat ≠ 0x3A3 ∧ form = lowerChar c ∨ ∃ d ∈ ['ς', 'σ'], form = [d]) := by
  rw [lowerCase.go]
  refine ⟨_, rfl, ?_⟩
  split
  next =>
    split
    · exact .inr ⟨'ς', by decide, rfl⟩
    · exact .inr ⟨'σ', by decide, rfl⟩
  next hsigma => exact .inl ⟨hsigma, rfl⟩

theorem isUpper_of_mem_lowerCase {cs : List Char} {d : Char} (h : d ∈ lowerCase cs) :
    d.isUpper = false := by
  suffices hgo : ∀ before, d ∈ lowerCase.go before cs → d.isUpper = false from hgo [] h
  clear h
  induction cs with
  | nil => exact fun _ h => absurd h List.not_mem_nil
  | cons c cs ih =>
      intro before h
      obtain ⟨form, heq, hform⟩ := lowerCase_go_cons before c cs
      rw [heq] at h
      rcases List.mem_append.mp h with hfirst | hrest
      · rcases hform with ⟨-, rfl⟩ | ⟨s, hs, rfl⟩
        · exact isUpper_of_mem_lowerChar hfirst
        · have hsigmas : ∀ s ∈ ['ς', 'σ'], s.isUpper = false :=
            List.forall_mem_cons.mpr ⟨rfl, List.forall_mem_singleton.mpr rfl⟩
          rw [List.mem_singleton.mp hfirst]
          exact hsigmas s hs
      · exact ih _ hrest

/-- A text whose lower-case form is within ASCII is of ASCII itself, with two exceptions in the form. -/
theorem ascii_of_lowerCase {cs : List Char}
    (h : ∀ d ∈ lowerCase cs, d.toNat < 0x80 ∧ d ∉ ['k', '\x00']) : ∀ c ∈ cs, c.toNat < 0x80 := by
  suffices hgo : ∀ before, (∀ d ∈ lowerCase.go before cs, d.toNat < 0x80 ∧ d ∉ ['k', '\x00']) →
      ∀ c ∈ cs, c.toNat < 0x80 from hgo [] h
  clear h
  induction cs with
  | nil => exact fun _ _ _ hc => absurd hc List.not_mem_nil
  | cons c cs ih =>
      intro before h
      obtain ⟨form, heq, hform⟩ := lowerCase_go_cons before c cs
      rw [heq] at h
      obtain ⟨hfirst, hrest⟩ := List.forall_mem_append.mp h
      refine List.forall_mem_cons.mpr ⟨?_, ih _ hrest⟩
      rcases hform with ⟨-, rfl⟩ | ⟨s, hs, rfl⟩
      · exact ascii_of_lowerChar hfirst
      · have hsigmas : ∀ s ∈ ['ς', 'σ'], ¬s.toNat < 0x80 :=
          List.forall_mem_cons.mpr ⟨by decide, List.forall_mem_singleton.mpr (by decide)⟩
        exact absurd (hfirst s List.mem_cons_self).1 (hsigmas s hs)

/-- On ASCII the lower-case form of a text is that of its letters. -/
theorem lowerCase_of_ascii {cs : List Char} (h : ∀ c ∈ cs, c.toNat < 0x80) :
    lowerCase cs = cs.map Char.toLower := by
  suffices hgo : ∀ before, lowerCase.go before cs = cs.map Char.toLower from hgo []
  induction cs with
  | nil => exact fun _ => rfl
  | cons c cs ih =>
      intro before
      obtain ⟨hc, hcs⟩ := List.forall_mem_cons.mp h
      have hsigma : c.toNat ≠ 0x3A3 := by omega
      rw [lowerCase.go, if_neg hsigma, lowerChar, if_pos hc, ih hcs]
      rfl

/-- Characters in lower case whose lower-case forms are letters of ASCII are these forms. -/
theorem lowerCase_eq_self {cs : List Char} (hcs : ∀ c ∈ cs, c.isUpper = false)
    (h : ∀ d ∈ lowerCase cs, d.isAlpha ∧ d ≠ 'k') : lowerCase cs = cs := by
  have hletters : ∀ d ∈ lowerCase cs, d.toNat < 0x80 ∧ d ∉ ['k', '\x00'] := by
    intro d hd
    obtain ⟨halpha, hk⟩ := h d hd
    refine ⟨toNat_lt_of_isAlpha halpha, fun hlimit => ?_⟩
    rcases List.mem_cons.mp hlimit with rfl | hnull
    · exact hk rfl
    · rw [List.mem_singleton.mp hnull] at halpha
      cases halpha
  have hascii := ascii_of_lowerCase hletters
  have hself : ∀ c ∈ cs, c.toLower = id c := fun c hc =>
    forall_ascii (P := fun c => c.isUpper = false → c.toLower = c) (by decide) (hascii c hc) (hcs c hc)
  rw [lowerCase_of_ascii hascii, List.map_congr_left hself, List.map_id]

end MarkTex
