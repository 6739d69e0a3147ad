import MarkTex.Encoding.Decode

/-!
# Reading UTF-8 back

The bytes of characters are read as those characters, and bytes that are read at all are the bytes of
what is read. The lead byte tells the length, so there is one case for each of the four forms.
-/

namespace MarkTex.Encoding

theorem toNat_toUInt8 {n : Nat} (hn : n < 256) : n.toUInt8.toNat = n := by
  simp only [Nat.toUInt8_eq, UInt8.toNat_ofNat']
  omega

/-- Six bits are kept by a byte that continues a character. -/
theorem isContinuation_of_lt {k : Nat} (hk : k < 64) :
    isContinuation (0x80 + k).toUInt8 = true ∧ sixBits (0x80 + k).toUInt8 = k := by
  have hbyte : (0x80 + k).toUInt8.toNat = 0x80 + k := toNat_toUInt8 (by omega)
  constructor
  · simp only [isContinuation, Bool.and_eq_true, decide_eq_true_eq, UInt8.le_iff_toNat_le,
      UInt8.lt_iff_toNat_lt, hbyte, UInt8.toNat_ofNat]
    omega
  · rw [sixBits, hbyte]
    omega

/-- A byte may follow the first byte of a character if what both begin is no surrogate, is in range and
has no shorter form. -/
theorem canFollow_of_lt {a k : Nat} (ha : a < 256) (hk : k < 64) (hshort : a = 0xE0 → 0x20 ≤ k)
    (hsurrogate : a = 0xED → k < 0x20) (hwide : a = 0xF0 → 0x10 ≤ k) (hlarge : a = 0xF4 → k < 0x10) :
    canFollow a.toUInt8 (0x80 + k).toUInt8 = true := by
  have hbyte : (0x80 + k).toUInt8.toNat = 0x80 + k := toNat_toUInt8 (by omega)
  have hfirst : a.toUInt8.toNat = a := toNat_toUInt8 ha
  simp only [canFollow, isContinuation_of_lt hk, ← UInt8.toNat_inj, hfirst, UInt8.le_iff_toNat_le,
    UInt8.lt_iff_toNat_lt, hbyte, UInt8.toNat_ofNat, Bool.true_and]
  split
  · simp; omega
  split
  · simp; omega
  split
  · simp; omega
  split
  · simp; omega
  · rfl

/-- The character at the head of the bytes of a character is that character. -/
theorem utf8Head_utf8Char (c : Char) : ∃ b more, utf8Char c = b :: more ∧
    ∀ rest, utf8Head b (more ++ rest) = .char c more.length := by
  have hscalar : c.toNat < 0xD800 ∨ 0xDFFF < c.toNat ∧ c.toNat < 0x110000 := c.valid
  have hself : Char.ofNat c.toNat = c := Char.ofNat_toNat c
  rw [utf8Char]
  generalize c.toNat = n at hscalar hself
  split
  · refine ⟨_, _, rfl, fun rest => ?_⟩
    rw [utf8Head.eq_def, toNat_toUInt8 (by omega), if_pos (by omega), hself]
    rfl
  split
  · refine ⟨_, _, rfl, fun rest => ?_⟩
    obtain ⟨hc, hbits⟩ := isContinuation_of_lt (k := n % 64) (by omega)
    have hvalue : (0xC0 + n / 64) % 32 * 64 + n % 64 = n := by omega
    rw [utf8Head.eq_def, toNat_toUInt8 (by omega), if_neg (by omega), if_neg (by omega),
      if_pos (by omega)]
    simp only [List.cons_append, hc, if_true, hbits, hvalue, hself]
    rfl
  split
  · refine ⟨_, _, rfl, fun rest => ?_⟩
    have hc : canFollow (0xE0 + n / 4096).toUInt8 (0x80 + n / 64 % 64).toUInt8 = true :=
      canFollow_of_lt (by omega) (by omega) (by omega) (by omega) (by omega) (by omega)
    obtain ⟨-, hcbits⟩ := isContinuation_of_lt (k := n / 64 % 64) (by omega)
    obtain ⟨hd, hdbits⟩ := isContinuation_of_lt (k := n % 64) (by omega)
    have hvalue : (0xE0 + n / 4096) % 16 * 4096 + n / 64 % 64 * 64 + n % 64 = n := by omega
    rw [utf8Head.eq_def, toNat_toUInt8 (by omega), if_neg (by omega), if_neg (by omega),
      if_neg (by omega), if_pos (by omega)]
    simp only [List.cons_append, hc, hd, hcbits, hdbits, hvalue, hself]
    rfl
  · refine ⟨_, _, rfl, fun rest => ?_⟩
    have hc : canFollow (0xF0 + n / 262144).toUInt8 (0x80 + n / 4096 % 64).toUInt8 = true :=
      canFollow_of_lt (by omega) (by omega) (by omega) (by omega) (by omega) (by omega)
    obtain ⟨-, hcbits⟩ := isContinuation_of_lt (k := n / 4096 % 64) (by omega)
    obtain ⟨hd, hdbits⟩ := isContinuation_of_lt (k := n / 64 % 64) (by omega)
    obtain ⟨he, hebits⟩ := isContinuation_of_lt (k := n % 64) (by omega)
    have hvalue : (0xF0 + n / 262144) % 8 * 262144 + n / 4096 % 64 * 4096 + n / 64 % 64 * 64 +
        n % 64 = n := by omega
    rw [utf8Head.eq_def, toNat_toUInt8 (by omega), if_neg (by omega), if_neg (by omega),
      if_neg (by omega), if_neg (by omega), if_pos (by omega)]
    simp only [List.cons_append, hc, hd, he, hcbits, hdbits, hebits, hvalue, hself]
    rfl

/-- Characters are read back from their bytes. -/
theorem utf8DecodeFrom_utf8Encode (position : Nat) (cs : List Char) :
    utf8DecodeFrom position (utf8Encode cs) = .ok cs := by
  induction cs generalizing position with
  | nil => rw [utf8Encode, List.flatMap_nil, utf8DecodeFrom]
  | cons c cs ih =>
      obtain ⟨b, more, hbytes, hhead⟩ := utf8Head_utf8Char c
      have hrest : (more ++ utf8Encode cs).drop more.length = utf8Encode cs := List.drop_left
      rw [utf8Encode, List.flatMap_cons, hbytes, ← utf8Encode, List.cons_append, utf8DecodeFrom, hhead]
      dsimp only
      rw [hrest, ih]

theorem utf8Decode_utf8Encode (cs : List Char) : utf8Decode (utf8Encode cs) = .ok cs :=
  utf8DecodeFrom_utf8Encode 0 cs

/-- Only a text that begins with the mark has bytes that begin with its bytes. -/
theorem dropByteOrderMark_utf8Encode {cs : List Char} (hcs : cs.head? ≠ some '\uFEFF') :
    dropByteOrderMark (utf8Encode cs) = utf8Encode cs := by
  unfold dropByteOrderMark
  split
  next rest hmark =>
    have hread := utf8Decode_utf8Encode cs
    rw [hmark, utf8Decode, utf8DecodeFrom] at hread
    have hhead : utf8Head 0xEF (0xBB :: 0xBF :: rest) = .char '\uFEFF' 2 := rfl
    rw [hhead] at hread
    dsimp only at hread
    split at hread
    · cases hread
      exact absurd rfl hcs
    · cases hread
  next => rfl

/-! ## The bytes of what is read -/

theorem toNat_ofNat_of_isValidChar {n : Nat} (hn : n.isValidChar) : (Char.ofNat n).toNat = n := by
  rw [Char.ofNat, dif_pos hn]
  rfl

theorem toUInt8_eq_of_toNat {n : Nat} {b : UInt8} (h : n = b.toNat) : n.toUInt8 = b := by
  rw [h, Nat.toUInt8_eq, UInt8.ofNat_toNat]

theorem range_of_isContinuation {b : UInt8} (h : isContinuation b = true) :
    0x80 ≤ b.toNat ∧ b.toNat < 0xC0 := by
  simpa [isContinuation, UInt8.le_iff_toNat_le, UInt8.lt_iff_toNat_lt] using h

/-- What a byte is in behind the first byte of a character of three or four bytes. -/
theorem ranges_of_canFollow {a b : UInt8} (h : canFollow a b = true) :
    (0x80 ≤ b.toNat ∧ b.toNat < 0xC0) ∧ (a.toNat = 0xE0 → 0xA0 ≤ b.toNat) ∧
      (a.toNat = 0xED → b.toNat < 0xA0) ∧ (a.toNat = 0xF0 → 0x90 ≤ b.toNat) ∧
      (a.toNat = 0xF4 → b.toNat < 0x90) := by
  simp only [canFollow, Bool.and_eq_true, ← UInt8.toNat_inj, UInt8.le_iff_toNat_le,
    UInt8.lt_iff_toNat_lt, UInt8.toNat_ofNat] at h
  obtain ⟨hcontinuation, hsecond⟩ := h
  refine ⟨range_of_isContinuation hcontinuation, ?_⟩
  split at hsecond
  · have := of_decide_eq_true hsecond
    omega
  split at hsecond
  · have := of_decide_eq_true hsecond
    omega
  split at hsecond
  · have := of_decide_eq_true hsecond
    omega
  split at hsecond
  · have := of_decide_eq_true hsecond
    omega
  · omega

theorem utf8Char_two {b c : UInt8} (hb : 0xC2 ≤ b.toNat ∧ b.toNat < 0xE0) (hc : isContinuation c) :
    utf8Char (Char.ofNat (b.toNat % 32 * 64 + sixBits c)) = [b, c] := by
  have hc := range_of_isContinuation hc
  have hvalue : (Char.ofNat (b.toNat % 32 * 64 + sixBits c)).toNat = b.toNat % 32 * 64 + sixBits c :=
    toNat_ofNat_of_isValidChar (.inl (by rw [sixBits]; omega))
  rw [utf8Char, hvalue, sixBits, if_neg (by omega), if_pos (by omega),
    toUInt8_eq_of_toNat (b := b) (by omega), toUInt8_eq_of_toNat (b := c) (by omega)]

theorem utf8Char_three {b c d : UInt8} (hb : 0xE0 ≤ b.toNat ∧ b.toNat < 0xF0) (hc : canFollow b c)
    (hd : isContinuation d) :
    utf8Char (Char.ofNat (b.toNat % 16 * 4096 + sixBits c * 64 + sixBits d)) = [b, c, d] := by
  obtain ⟨hc, hshort, hsurrogate, -, -⟩ := ranges_of_canFollow hc
  have hd := range_of_isContinuation hd
  have hvalue : (Char.ofNat (b.toNat % 16 * 4096 + sixBits c * 64 + sixBits d)).toNat =
      b.toNat % 16 * 4096 + sixBits c * 64 + sixBits d := by
    refine toNat_ofNat_of_isValidChar ?_
    rw [Nat.isValidChar, sixBits, sixBits]
    omega
  rw [utf8Char, hvalue, sixBits, sixBits, if_neg (by omega), if_neg (by omega), if_pos (by omega),
    toUInt8_eq_of_toNat (b := b) (by omega), toUInt8_eq_of_toNat (b := c) (by omega),
    toUInt8_eq_of_toNat (b := d) (by omega)]

theorem utf8Char_four {b c d e : UInt8} (hb : 0xF0 ≤ b.toNat ∧ b.toNat < 0xF5) (hc : canFollow b c)
    (hd : isContinuation d) (he : isContinuation e) :
    utf8Char (Char.ofNat (b.toNat % 8 * 262144 + sixBits c * 4096 + sixBits d * 64 + sixBits e)) =
      [b, c, d, e] := by
  obtain ⟨hc, -, -, hwide, hlarge⟩ := ranges_of_canFollow hc
  have hd := range_of_isContinuation hd
  have he := range_of_isContinuation he
  have hvalue : (Char.ofNat (b.toNat % 8 * 262144 + sixBits c * 4096 + sixBits d * 64 +
      sixBits e)).toNat = b.toNat % 8 * 262144 + sixBits c * 4096 + sixBits d * 64 + sixBits e := by
    refine toNat_ofNat_of_isValidChar ?_
    rw [Nat.isValidChar, sixBits, sixBits, sixBits]
    omega
  rw [utf8Char, hvalue, sixBits, sixBits, sixBits, if_neg (by omega), if_neg (by omega),
    if_neg (by omega), toUInt8_eq_of_toNat (b := b) (by omega),
    toUInt8_eq_of_toNat (b := c) (by omega), toUInt8_eq_of_toNat (b := d) (by omega),
    toUInt8_eq_of_toNat (b := e) (by omega)]

/-- The character that is read at the head of bytes has the bytes that it was read from. -/
theorem utf8Char_of_utf8Head {b : UInt8} {rest : List UInt8} {c : Char} {more : Nat}
    (h : utf8Head b rest = .char c more) : b :: rest = utf8Char c ++ rest.drop more := by
  have hbyte := b.toNat_lt
  rw [utf8Head.eq_def] at h
  dsimp only at h
  split at h
  next hone =>
    cases h
    rw [utf8Char, toNat_ofNat_of_isValidChar (.inl (by omega)), if_pos hone,
      toUInt8_eq_of_toNat rfl]
    rfl
  split at h
  · cases h
  split at h
  next htwo =>
    split at h
    · cases h
    split at h
    next hc =>
      cases h
      rw [utf8Char_two (by omega) hc]
      rfl
    · cases h
  split at h
  next hthree =>
    split at h
    · cases h
    · split at h <;> cases h
    split at h
    · cases h
    next hc =>
    split at h
    · cases h
    next hd =>
      cases h
      rw [utf8Char_three (by omega) (by simpa using hc) (by simpa using hd)]
      rfl
  split at h
  next hfour =>
    split at h
    · cases h
    · split at h <;> cases h
    · split at h
      · cases h
      · split at h <;> cases h
    split at h
    · cases h
    next hc =>
    split at h
    · cases h
    next hd =>
    split at h
    · cases h
    next he =>
      cases h
      rw [utf8Char_four (by omega) (by simpa using hc) (by simpa using hd) (by simpa using he)]
      rfl
  · cases h

/-- Bytes that are read are the bytes of what is read from them. -/
theorem utf8Encode_of_utf8DecodeFrom {position : Nat} {bs : List UInt8} {cs : List Char}
    (h : utf8DecodeFrom position bs = .ok cs) : utf8Encode cs = bs := by
  fun_induction utf8DecodeFrom position bs generalizing cs with
  | case1 position =>
      cases h
      rfl
  | case3 position b rest c more hhead cs' hrest ih =>
      cases h
      rw [utf8Encode, List.flatMap_cons, ← utf8Encode, ih hrest, ← utf8Char_of_utf8Head hhead]
  | case2 | case4 => cases h

/-- Bytes are read just as the characters that have these bytes. -/
theorem utf8DecodeFrom_eq_ok_iff {position : Nat} {bs : List UInt8} {cs : List Char} :
    utf8DecodeFrom position bs = .ok cs ↔ utf8Encode cs = bs :=
  ⟨utf8Encode_of_utf8DecodeFrom, fun h => h ▸ utf8DecodeFrom_utf8Encode position cs⟩

theorem utf8Decode_eq_ok_iff {bs : List UInt8} {cs : List Char} :
    utf8Decode bs = .ok cs ↔ utf8Encode cs = bs :=
  utf8DecodeFrom_eq_ok_iff

/-! ## The byte order mark -/

/-- The bytes of the mark are read as the mark, in front of what the bytes behind them are read as. -/
theorem utf8Decode_mark_eq_ok_iff {rest : List UInt8} {cs : List Char} :
    utf8Decode (0xEF :: 0xBB :: 0xBF :: rest) = .ok cs ↔
      ∃ cs', cs = '\uFEFF' :: cs' ∧ utf8Decode rest = .ok cs' := by
  simp only [utf8Decode_eq_ok_iff]
  constructor
  · intro hbytes
    by_cases hhead : cs.head? = some '\uFEFF'
    · obtain ⟨cs', rfl⟩ := List.head?_eq_some_iff.mp hhead
      have hmark : utf8Encode ('\uFEFF' :: cs') = 0xEF :: 0xBB :: 0xBF :: utf8Encode cs' := rfl
      rw [hmark] at hbytes
      simp only [List.cons.injEq, true_and] at hbytes
      exact ⟨cs', rfl, hbytes⟩
    · -- other characters keep their bytes when the mark is dropped
      have hkept := congrArg List.length (dropByteOrderMark_utf8Encode hhead)
      rw [hbytes, dropByteOrderMark] at hkept
      simp only [List.length_cons] at hkept
      omega
  · rintro ⟨cs', rfl, rfl⟩
    rfl

/-- Under UTF-8 bytes are read as they are; no bytes are no exception. -/
theorem decodeNamed_utf8 {name : Text} (hname : Codec.named? name = .ok (some .utf8))
    (bs : List UInt8) :
    decodeNamed name bs = (withName "utf-8" (utf8Decode bs)).mapError .malformed := by
  rw [decodeNamed, hname]
  cases bs with
  | nil =>
      rw [utf8Decode, utf8DecodeFrom]
      rfl
  | cons b bs => rfl

/-- Under UTF-8 with an optional mark they are read without the mark at their head. -/
theorem decodeNamed_utf8Signed {name : Text} (hname : Codec.named? name = .ok (some .utf8Signed))
    (bs : List UInt8) : decodeNamed name bs =
      (withName "utf-8" (utf8Decode (dropByteOrderMark bs))).mapError .malformed := by
  rw [decodeNamed, hname]
  cases bs with
  | nil =>
      rw [dropByteOrderMark, utf8Decode, utf8DecodeFrom]
      · rfl
      · intro rest h
        cases h
  | cons b bs => rfl

end MarkTex.Encoding
