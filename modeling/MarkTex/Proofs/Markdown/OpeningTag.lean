import MarkTex.Document.OfTokens

/-!
# Tags at the beginning of a text

A text opens with a tag if a left angle bracket, blanks and a name come first. The name is read as far
as it goes, so the tag is kept just if that name, in letters of either case, is one of those that are
kept: `isKeptInline_iff`.
-/

namespace MarkTex.Markdown

/-- Whether a character goes on with the name of a tag. -/
def inTagName (c : Char) : Bool := c.isAlphanum || c == '-'

/-- Whether a code point goes on with the name of a tag. -/
def goesOn (c : CodePoint) : Bool := c.char?.any inTagName

/-- A text opens with a left angle bracket, blanks and the whole name of a tag that is kept in a
line, in letters of either case. -/
def OpensKeptTag (raw : Text) : Prop :=
  ∃ (blanks : Text) (name : List Char) (rest : Text),
    raw = .scalar '<' :: (blanks ++ Text.ofChars name ++ rest) ∧ (∀ c ∈ blanks, c.isBlank) ∧
      (∀ c ∈ name, inTagName c) ∧ ¬ rest.head?.any goesOn ∧ lowerCase name ∈ keptInlineTags

theorem toNat_of_inTagName {c : Char} (h : inTagName c) : c.toNat < 0x80 ∧ isBlank c = false := by
  delta inTagName Char.isAlphanum Char.isAlpha Char.isUpper Char.isLower Char.isDigit at h
  simp only [Bool.or_eq_true, Bool.and_eq_true, decide_eq_true_eq, beq_iff_eq,
    UInt32.le_iff_toNat_le, ge_iff_le] at h
  change ((0x41 ≤ c.toNat ∧ c.toNat ≤ 0x5A ∨ 0x61 ≤ c.toNat ∧ c.toNat ≤ 0x7A) ∨
    0x30 ≤ c.toNat ∧ c.toNat ≤ 0x39) ∨ c = '-' at h
  rcases h with hrange | rfl
  · simp [isBlank]
    omega
  · decide

theorem isAlpha_of_isAlpha_toLower {c : Char} (h : c.toLower.isAlpha) : c.isAlpha := by
  delta Char.toLower at h
  split at h
  next hupper => exact (Bool.or_eq_true c.isUpper c.isLower).mpr (.inl (decide_eq_true hupper))
  next => exact h

theorem lowerCase_cons {c : Char} (h : c.toNat < 0x80) (cs : List Char) :
    ∃ rest, lowerCase (c :: cs) = c.toLower :: rest := by
  have hsigma : c.toNat ≠ 0x3A3 := by omega
  exact ⟨_, by rw [lowerCase, lowerCase.go, if_neg hsigma, lowerChar, if_pos h]; rfl⟩

theorem isAlpha_of_lowerCase_mem {c : Char} {cs : List Char} (hname : inTagName c)
    (h : lowerCase (c :: cs) ∈ keptInlineTags) : c.isAlpha := by
  obtain ⟨rest, heq⟩ := lowerCase_cons (toNat_of_inTagName hname).1 cs
  have hfirst : ∀ tag ∈ keptInlineTags, tag.head?.any Char.isAlpha := by decide
  have hlower := hfirst _ h
  rw [heq] at hlower
  exact isAlpha_of_isAlpha_toLower hlower

/-- Where the name of a tag is read, a surrogate counts as a character that ends it. -/
theorem takeWhile_goesOn (t : Text) :
    t.takeWhile goesOn =
      Text.ofChars ((t.map fun c => c.char?.getD '<').takeWhile inTagName) := by
  induction t with
  | nil => rfl
  | cons c t ih =>
      rw [List.map_cons]
      cases c with
      | surrogate k => rfl
      | scalar c =>
          have hread : goesOn (.scalar c) = inTagName c := rfl
          have hchar : (CodePoint.scalar c).char?.getD '<' = c := rfl
          rw [hchar]
          by_cases hc : inTagName c
          · rw [List.takeWhile_cons_of_pos (hread.trans hc), List.takeWhile_cons_of_pos hc, ih]
            rfl
          · rw [List.takeWhile_cons_of_neg (by rwa [hread]), List.takeWhile_cons_of_neg hc]
            rfl

theorem not_goesOn_head_dropWhile (t : Text) : ¬ (t.dropWhile goesOn).head?.any goesOn := by
  have hstop := List.head?_dropWhile_not goesOn t
  cases hhead : (t.dropWhile goesOn).head? with
  | none => exact Bool.false_ne_true
  | some d => simpa [hhead] using hstop

/-- A name is read up to where it does not go on. -/
theorem takeWhile_name {name : List Char} {rest : Text} (hname : ∀ c ∈ name, inTagName c)
    (hrest : ¬ rest.head?.any goesOn) :
    ((Text.ofChars name ++ rest).map fun c : CodePoint => c.char?.getD '<').takeWhile inTagName =
      name := by
  have hchars : (Text.ofChars name).map (fun c : CodePoint => c.char?.getD '<') = name := by
    rw [Text.ofChars, List.map_map]
    exact List.map_id _
  have hnone : rest.takeWhile goesOn = [] := by
    cases rest with
    | nil => rfl
    | cons d rest => exact List.takeWhile_cons_of_neg (by simpa using hrest)
  have hstop : (rest.map fun c : CodePoint => c.char?.getD '<').takeWhile inTagName = [] := by
    rw [takeWhile_goesOn] at hnone
    exact List.map_eq_nil_iff.mp hnone
  rw [List.map_append, hchars, List.takeWhile_append_of_pos hname, hstop, List.append_nil]

/-- A text opens with a tag if the name that can be read behind the blanks begins with a letter. -/
theorem openingTag?_eq_some_iff {raw : Text} {tag : List Char} :
    openingTag? raw = some tag ↔ ∃ (blanks : Text) (name : List Char) (rest : Text),
      raw = .scalar '<' :: (blanks ++ Text.ofChars name ++ rest) ∧ (∀ c ∈ blanks, c.isBlank) ∧
        (∀ c ∈ name, inTagName c) ∧ ¬ rest.head?.any goesOn ∧ name.head?.any Char.isAlpha ∧
          tag = lowerCase name := by
  constructor
  · intro h
    rw [openingTag?.eq_def] at h
    split at h
    next rest =>
      generalize htail : rest.dropWhile CodePoint.isBlank = tail at h
      dsimp only at h
      split at h
      next c cs hcs =>
        split at h
        next halpha =>
          have hfirst : inTagName c := by simp [inTagName, Char.isAlphanum, halpha]
          refine ⟨rest.takeWhile CodePoint.isBlank,
            (tail.map fun c : CodePoint => c.char?.getD '<').takeWhile inTagName,
            tail.dropWhile goesOn, ?_, List.all_eq_true.mp List.all_takeWhile,
            List.all_eq_true.mp List.all_takeWhile, not_goesOn_head_dropWhile tail, ?_,
            (Option.some.inj h).symm⟩
          · rw [← takeWhile_goesOn, List.append_assoc, List.takeWhile_append_dropWhile, ← htail,
              List.takeWhile_append_dropWhile]
          · rw [hcs, List.takeWhile_cons_of_pos hfirst]
            exact halpha
        next => cases h
      next => cases h
    next => cases h
  · rintro ⟨blanks, name, rest, rfl, hblanks, hname, hrest, halpha, rfl⟩
    have hread := takeWhile_name hname hrest
    obtain ⟨c, name, rfl⟩ : ∃ c cs, name = c :: cs := by
      cases name with
      | nil => cases halpha
      | cons c cs => exact ⟨c, cs, rfl⟩
    have hc := hname c List.mem_cons_self
    have hdrop : (blanks ++ Text.ofChars (c :: name) ++ rest).dropWhile CodePoint.isBlank =
        Text.ofChars (c :: name) ++ rest := by
      rw [List.append_assoc, List.dropWhile_append_of_pos hblanks]
      exact List.dropWhile_cons_of_neg (by simp [CodePoint.isBlank, (toNat_of_inTagName hc).2])
    rw [openingTag?, hdrop]
    change (if c.isAlpha then some (lowerCase (List.takeWhile inTagName _)) else none) = _
    have hfirst : c.isAlpha := halpha
    rw [if_pos hfirst, hread]

theorem isKeptInline_iff (raw : Text) : isKeptInline raw ↔ OpensKeptTag raw := by
  constructor
  · intro h
    obtain ⟨tag, htag, hkept⟩ := (Option.any_eq_true _ _).mp h
    obtain ⟨blanks, name, rest, hraw, hblanks, hname, hrest, _, rfl⟩ :=
      openingTag?_eq_some_iff.mp htag
    exact ⟨blanks, name, rest, hraw, hblanks, hname, hrest, by simpa using hkept⟩
  · rintro ⟨blanks, name, rest, hraw, hblanks, hname, hrest, hkept⟩
    refine (Option.any_eq_true _ _).mpr ⟨lowerCase name, openingTag?_eq_some_iff.mpr
      ⟨blanks, name, rest, hraw, hblanks, hname, hrest, ?_, rfl⟩, by simpa using hkept⟩
    cases name with
    | nil => exact absurd hkept (by decide)
    | cons c cs => exact isAlpha_of_lowerCase_mem (hname c List.mem_cons_self) hkept

instance (raw : Text) : Decidable (OpensKeptTag raw) :=
  decidable_of_iff _ (isKeptInline_iff raw)

end MarkTex.Markdown
