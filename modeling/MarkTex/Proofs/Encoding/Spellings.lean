import MarkTex.Host.FileAccess
import MarkTex.Proofs.Encoding.Utf8
import MarkTex.Proofs.Text.LowerCase

/-!
# Spellings of an encoding

A codec has many names, and each name many spellings. Two names of one codec read the same text from
bytes, with one exception: a byte order mark is dropped under the usual names of UTF-8 alone, and
under any other name of UTF-8 it is read as a character (`decodeWith_spellings`).
-/

namespace MarkTex

open Encoding

/-! ## The usual names of UTF-8 -/

/-- A character of a name with an underscore as a hyphen and a capital letter as a small one. -/
def foldNameChar (c : Char) : Char := if c = '_' then '-' else c.toLower

/-- The names under which a byte order mark is dropped: two words in letters of either case, with a
hyphen or an underscore in one of them. -/
def UsualName (name : Text) : Prop :=
  ∃ cs, name = Text.ofChars cs ∧ cs.map foldNameChar ∈ ["utf-8".toList, "utf8".toList]

theorem toNat_lt_of_foldNameChar {c : Char} (h : (foldNameChar c).toNat < 0x80) : c.toNat < 0x80 := by
  rcases Nat.lt_or_ge c.toNat 0x80 with hascii | hbeyond
  · exact hascii
  · have hself : foldNameChar c = c := by
      rw [foldNameChar, toLower_eq_self hbeyond, if_neg]
      rintro rfl
      exact absurd hbeyond (by decide)
    rwa [hself] at h

theorem normalizeFrom_map_foldNameChar (gap started : Bool) (cs : List Char) :
    normalizeFrom gap started (cs.map foldNameChar) = normalizeFrom gap started cs := by
  have hkept (c : Char) : ((foldNameChar c).isAlphanum || foldNameChar c == '.') =
      (c.isAlphanum || c == '.') := by
    rw [foldNameChar]
    split
    next hc => rw [hc]; rfl
    next => exact eq_toLower_of_ascii (f := fun c => c.isAlphanum || c == '.') (by decide) c
  have hlower (c : Char) (hc : (c.isAlphanum || c == '.') = true) :
      (foldNameChar c).toLower = c.toLower := by
    rw [foldNameChar, if_neg]
    · exact eq_toLower_of_ascii (f := Char.toLower) (by decide) c
    · rintro rfl
      exact absurd hc (by decide)
  induction cs generalizing gap started with
  | nil => rfl
  | cons c cs ih =>
      rw [List.map_cons, normalizeFrom, normalizeFrom, hkept, ih, ih]
      split
      next hc => rw [hlower c hc]
      next => rfl

theorem toChars_ofChars (cs : List Char) : (Text.ofChars cs).toChars = cs := by
  rw [Text.toChars, Text.ofChars, List.map_map]
  exact List.map_id cs

/-- A text without replaced surrogates is that of its characters. -/
theorem ofChars_toChars {t : Text} (h : '\uFFFD' ∉ t.toChars) : Text.ofChars t.toChars = t := by
  rw [Text.ofChars, Text.toChars, List.map_map]
  have hself : ∀ c ∈ t, CodePoint.scalar (c.char?.getD '\uFFFD') = id c := by
    intro c hc
    cases c with
    | scalar c => rfl
    | surrogate k => exact absurd (List.mem_map_of_mem hc) h
  exact (List.map_congr_left hself).trans (List.map_id t)

/-- The usual names are names of UTF-8. -/
theorem UsualName.named? {name : Text} (h : UsualName name) : Codec.named? name = .ok (some .utf8) := by
  obtain ⟨cs, rfl, hcs⟩ := h
  have hnull : (Text.ofChars cs).contains (.scalar '\x00') = false := by
    refine Bool.eq_false_iff.mpr fun hcontains => ?_
    obtain ⟨c, hc, hscalar⟩ := List.mem_map.mp (List.contains_iff_mem.mp hcontains)
    cases hscalar
    have hplain : ∀ name ∈ ["utf-8".toList, "utf8".toList], '\x00' ∉ name := by decide
    exact hplain _ hcs (List.mem_map_of_mem hc)
  have hcanonical : canonicalName? (Encoding.normalize cs) = some "utf_8" := by
    have hnames : ∀ name ∈ ["utf-8".toList, "utf8".toList],
        canonicalName? (Encoding.normalize name) = some "utf_8" := by
      decide +kernel
    rw [Encoding.normalize, ← normalizeFrom_map_foldNameChar]
    exact hnames _ hcs
  rw [Codec.named?, utf8OfText, Text.chars?_ofChars]
  dsimp only
  rw [hnull, toChars_ofChars, hcanonical]
  rfl

/-- On ASCII a name in lower case with hyphens is the name with its characters folded. -/
theorem map_lowerCase_of_ascii {cs : List Char} (h : ∀ c ∈ cs, c.toNat < 0x80) :
    ((lowerCase cs).map fun c => if c = '_' then '-' else c) = cs.map foldNameChar := by
  rw [lowerCase_of_ascii h, List.map_map]
  refine List.map_congr_left fun c hc => ?_
  exact forall_ascii (P := fun c => (if c.toLower = '_' then '-' else c.toLower) = foldNameChar c)
    (by decide) (h c hc)

/-- The usual names are those that stand for UTF-8 with an optional mark. -/
theorem map_lowerCase_mem_iff (name : Text) :
    ((lowerCase name.toChars).map fun c => if c = '_' then '-' else c) ∈
      ["utf-8".toList, "utf8".toList] ↔ UsualName name := by
  have hplain : ∀ word ∈ ["utf-8".toList, "utf8".toList], ∀ d ∈ word,
      d.toNat < 0x80 ∧ d ∉ ['k', '\x00'] := by
    simp
  constructor
  · intro h
    have hlower : ∀ d ∈ lowerCase name.toChars, d.toNat < 0x80 ∧ d ∉ ['k', '\x00'] := by
      intro d hd
      have hfolded := hplain _ h _ (List.mem_map_of_mem hd)
      split at hfolded
      next hd => rw [hd]; decide
      next => exact hfolded
    have hascii := ascii_of_lowerCase hlower
    -- a lone surrogate would be among them as a character beyond ASCII
    have hwhole : Text.ofChars name.toChars = name :=
      ofChars_toChars fun hreplaced => absurd (hascii _ hreplaced) (by decide)
    exact ⟨name.toChars, hwhole.symm, map_lowerCase_of_ascii hascii ▸ h⟩
  · rintro ⟨cs, rfl, hcs⟩
    have hascii : ∀ c ∈ cs, c.toNat < 0x80 := fun c hc =>
      toNat_lt_of_foldNameChar (hplain _ hcs _ (List.mem_map_of_mem hc)).1
    rwa [toChars_ofChars, map_lowerCase_of_ascii hascii]

theorem sourceEncoding_of_usualName {name : Text} (h : UsualName name) :
    sourceEncoding name = Text.ofString "utf-8-sig" := by
  rw [sourceEncoding, if_pos]
  simpa using (map_lowerCase_mem_iff name).mpr h

theorem named?_sourceEncoding_of_usualName {name : Text} (h : UsualName name) :
    Codec.named? (sourceEncoding name) = .ok (some .utf8Signed) := by
  rw [sourceEncoding_of_usualName h]
  rfl

theorem sourceEncoding_of_not_usualName {name : Text} (h : ¬UsualName name) :
    sourceEncoding name = name := by
  rw [sourceEncoding, if_neg]
  simpa using mt (map_lowerCase_mem_iff name).mp h

/-! ## Reading under a name -/

/-- Readers of the codecs that this library leaves out: the text of bytes, or a failure. -/
abbrev OtherCodecs := String → List UInt8 → Except Fault Text

/-- Decoding where the codecs that this library leaves out have readers of their own. What these cannot
decode is a failure as for any codec, and their other failures are passed on. -/
def Action.decodeWith (others : OtherCodecs) (bs : List UInt8) (encoding : Text) : Action Text :=
  match Codec.named? (sourceEncoding encoding), bs with
  | .ok (some (.unread codec)), _ :: _ =>
    match others codec bs with
    | .ok t => return t
    | .error (.badBytes f) => throw (.undecodable (sourceEncoding encoding) (.malformed f))
    | .error f => failBeneath f
  | _, _ => decodeText bs encoding

/-- Two outcomes of reading are the same: one text, refusals of the bytes or of the codec, or one failure
that is passed on. -/
inductive SameReading : Except Error Text → Except Error Text → Prop
  | text (t : Text) : SameReading (.ok t) (.ok t)
  | refused {e e' : Error} :
      e.kind? = some .parsing → e'.kind? = some .parsing → SameReading (.error e) (.error e')
  | passed (f : Fault) : SameReading (.error (.beneath f)) (.error (.beneath f))

theorem SameReading.eq_of_ok {t t' : Text} (h : SameReading (.ok t) (.ok t')) : t = t' := by
  cases h
  rfl

theorem ofChars_injective {cs cs' : List Char} (h : Text.ofChars cs = Text.ofChars cs') : cs = cs' := by
  have hread := congrArg Text.chars? h
  rw [Text.chars?_ofChars, Text.chars?_ofChars] at hread
  exact Option.some.inj hread

/-- What comes of decoding bytes under a name with a codec that reads them. -/
def readAs (name : Text) (codec : String) : Except BadBytes (List Char) → Except Error Text
  | .ok cs => .ok (Text.ofChars cs)
  | .error bad => .error (.undecodable name (.malformed ⟨codec, bad⟩))

theorem sameReading_readAs {a b : Text} {codec codec' : String} {r r' : Except BadBytes (List Char)} :
    SameReading (readAs a codec r) (readAs b codec' r') ↔ ∀ cs, r = .ok cs ↔ r' = .ok cs := by
  constructor
  · intro hsame
    cases r with
    | ok cs =>
        cases r' with
        | ok cs' =>
            rw [ofChars_injective hsame.eq_of_ok]
            exact fun _ => Iff.rfl
        | error bad => cases hsame
    | error bad =>
        cases r' with
        | ok cs' => cases hsame
        | error bad' => exact fun cs => ⟨nofun, nofun⟩
  · intro hiff
    cases r with
    | ok cs =>
        rw [(hiff cs).mp rfl]
        exact .text _
    | error bad =>
        cases r' with
        | ok cs' => cases (hiff cs').mpr rfl
        | error bad' => exact .refused rfl rfl

theorem outcome_of_decodeNamed {a : Text} {bs : List UInt8} {codec : String}
    {r : Except BadBytes (List Char)}
    (hread : decodeNamed (sourceEncoding a) bs = (withName codec r).mapError .malformed) (h : Host) :
    ((Action.decodeText bs a).runOn h).1 = readAs (sourceEncoding a) codec r := by
  rw [Action.decodeText, hread]
  cases r <;> rfl

/-- A codec reads bytes under whatever name, unless it is left out or is no encoding of text. -/
theorem decode_cases (c : Codec) (bs : List UInt8) :
    (∃ (codec : String) (r : Except BadBytes (List Char)),
      ∀ name, c.decode name bs = (withName codec r).mapError .malformed) ∨
    (∃ codec, c = .unread codec) ∨ ∃ codec, c = .transform codec := by
  cases c with
  | unread codec => exact .inr (.inl ⟨codec, rfl⟩)
  | transform codec => exact .inr (.inr ⟨codec, rfl⟩)
  | utf16 =>
      simp only [Codec.decode]
      split <;> exact .inl ⟨_, _, fun _ => rfl⟩
  | _ => exact .inl ⟨_, _, fun _ => rfl⟩

theorem decodeNamed_cons {name : Text} {c : Codec} (hname : Codec.named? name = .ok (some c))
    (b : UInt8) (bs : List UInt8) : decodeNamed name (b :: bs) = c.decode name (b :: bs) := by
  rw [decodeNamed, hname]
  rfl

/-- Where the library has a reader for a codec it is used. -/
theorem decodeWith_eq {others : OtherCodecs} {a : Text} {c : Codec} {bs : List UInt8}
    (ha : Codec.named? (sourceEncoding a) = .ok (some c)) (hc : ∀ codec, c ≠ .unread codec) :
    Action.decodeWith others bs a = Action.decodeText bs a := by
  unfold Action.decodeWith
  split
  next codec _ _ hunread =>
    rw [ha] at hunread
    cases hunread
    exact absurd rfl (hc codec)
  next => rfl

theorem outcome_nil (others : OtherCodecs) {a : Text} {c : Codec}
    (ha : Codec.named? (sourceEncoding a) = .ok (some c)) (h : Host) :
    ((Action.decodeWith others [] a).runOn h).1 = .ok [] := by
  have hread : decodeNamed (sourceEncoding a) [] = .ok [] := by
    rw [decodeNamed, ha]
    rfl
  have hempty : Action.decodeWith others [] a = Action.decodeText [] a := by
    unfold Action.decodeWith
    split
    next hcons => cases hcons
    next => rfl
  rw [hempty, Action.decodeText, hread]
  rfl

theorem outcome_of_decode (others : OtherCodecs) {a : Text} {c : Codec} {b : UInt8} {bs : List UInt8}
    {codec : String} {r : Except BadBytes (List Char)}
    (ha : Codec.named? (sourceEncoding a) = .ok (some c))
    (hread : ∀ name, c.decode name (b :: bs) = (withName codec r).mapError .malformed) (h : Host) :
    ((Action.decodeWith others (b :: bs) a).runOn h).1 = readAs (sourceEncoding a) codec r := by
  have hown (left : String) : c ≠ .unread left := by
    rintro rfl
    have hfirst := hread []
    cases r <;> cases hfirst
  rw [decodeWith_eq ha hown]
  exact outcome_of_decodeNamed ((decodeNamed_cons ha b bs).trans (hread _)) h

/-- A codec that is no encoding of text decodes nothing. -/
theorem outcome_of_transform (others : OtherCodecs) {a : Text} {codec : String} (b : UInt8)
    (bs : List UInt8) (ha : Codec.named? (sourceEncoding a) = .ok (some (.transform codec))) (h : Host) :
    ((Action.decodeWith others (b :: bs) a).runOn h).1 =
      .error (.undecodable (sourceEncoding a) (.notTextual (sourceEncoding a))) := by
  rw [decodeWith_eq ha nofun, Action.decodeText, decodeNamed_cons ha]
  rfl

/-- Readings whose codecs are the same are the same. -/
theorem sameReading_of_named? (others : OtherCodecs) {a b : Text} {c : Codec} (bs : List UInt8)
    (h : Host) (ha : Codec.named? (sourceEncoding a) = .ok (some c))
    (hb : Codec.named? (sourceEncoding b) = .ok (some c)) :
    SameReading ((Action.decodeWith others bs a).runOn h).1
      ((Action.decodeWith others bs b).runOn h).1 := by
  cases bs with
  | nil =>
      rw [outcome_nil others ha, outcome_nil others hb]
      exact .text []
  | cons byte bs =>
      rcases decode_cases c (byte :: bs) with ⟨codec, r, hread⟩ | ⟨codec, rfl⟩ | ⟨codec, rfl⟩
      · rw [outcome_of_decode others ha hread, outcome_of_decode others hb hread, sameReading_readAs]
        exact fun _ => Iff.rfl
      · simp only [Action.decodeWith, ha, hb]
        cases others codec (byte :: bs) with
        | ok t => exact .text t
        | error f =>
            cases f with
            | badBytes f => exact .refused rfl rfl
            | _ => exact .passed _
      · rw [outcome_of_transform others byte bs ha, outcome_of_transform others byte bs hb]
        exact .refused rfl rfl

/-! ## Names of UTF-8 -/

theorem SameReading.symm {r r' : Except Error Text} (h : SameReading r r') : SameReading r' r := by
  cases h with
  | text t => exact .text t
  | refused he he' => exact .refused he' he
  | passed f => exact .passed f

variable {others : OtherCodecs} {a b : Text} {c : Codec} {bs : List UInt8}

/-- Under a usual name bytes are read without the mark at their head. -/
theorem outcome_of_usualName (ha : UsualName a) (h : Host) :
    ((Action.decodeWith others bs a).runOn h).1 =
      readAs (sourceEncoding a) "utf-8" (utf8Decode (dropByteOrderMark bs)) := by
  have hname := named?_sourceEncoding_of_usualName ha
  rw [decodeWith_eq hname nofun]
  exact outcome_of_decodeNamed (decodeNamed_utf8Signed hname bs) h

/-- Under any other name of UTF-8 they are read with it. -/
theorem outcome_of_not_usualName (ha : ¬UsualName a) (hname : Codec.named? a = .ok (some .utf8))
    (h : Host) : ((Action.decodeWith others bs a).runOn h).1 =
      readAs (sourceEncoding a) "utf-8" (utf8Decode bs) := by
  rw [← sourceEncoding_of_not_usualName ha] at hname
  rw [decodeWith_eq hname nofun]
  exact outcome_of_decodeNamed (decodeNamed_utf8 hname bs) h

/-- Bytes begin with a byte order mark, and what is behind it is UTF-8. -/
def Marked (bs : List UInt8) (cs : List Char) : Prop :=
  ∃ rest, bs = 0xEF :: 0xBB :: 0xBF :: rest ∧ utf8Decode rest = .ok cs

/-- Dropping the mark changes what is read just where there is a mark in front of UTF-8. -/
theorem utf8Decode_dropByteOrderMark_iff (bs : List UInt8) :
    (∀ cs, utf8Decode (dropByteOrderMark bs) = .ok cs ↔ utf8Decode bs = .ok cs) ↔
      ¬∃ cs, Marked bs cs := by
  constructor
  · rintro hsame ⟨cs, rest, rfl, hrest⟩
    obtain ⟨cs', rfl, hbehind⟩ := utf8Decode_mark_eq_ok_iff.mp ((hsame cs).mp hrest)
    have hlength := congrArg List.length (Except.ok.inj (hrest.symm.trans hbehind))
    simp at hlength
  · intro hunmarked cs
    unfold dropByteOrderMark
    split
    next rest =>
      refine ⟨fun hrest => absurd ⟨cs, rest, rfl, hrest⟩ hunmarked, fun hmark => ?_⟩
      obtain ⟨cs', -, hrest⟩ := utf8Decode_mark_eq_ok_iff.mp hmark
      exact absurd ⟨cs', rest, rfl, hrest⟩ hunmarked
    next => exact Iff.rfl

theorem sameReading_usual_iff (ha : UsualName a) (hb : ¬UsualName b)
    (hname : Codec.named? b = .ok (some .utf8)) (h : Host) :
    SameReading ((Action.decodeWith others bs a).runOn h).1
        ((Action.decodeWith others bs b).runOn h).1 ↔ ¬∃ cs, Marked bs cs := by
  rw [outcome_of_usualName ha, outcome_of_not_usualName hb hname, sameReading_readAs,
    utf8Decode_dropByteOrderMark_iff]

/-- Under two names of one codec bytes are read as the same text or refused, unless they begin with a
byte order mark in front of UTF-8 and one name is usual for UTF-8 and the other is not. The mark is
dropped under the usual names and a character under the others. -/
theorem decodeWith_spellings (others : OtherCodecs) {a b : Text} {c : Codec}
    (ha : Codec.named? a = .ok (some c)) (hb : Codec.named? b = .ok (some c)) (bs : List UInt8)
    (h : Host) :
    (SameReading ((Action.decodeWith others bs a).runOn h).1
        ((Action.decodeWith others bs b).runOn h).1 ↔
      ((UsualName a ↔ UsualName b) ∨ ¬∃ cs, Marked bs cs)) ∧
    (UsualName a → c = .utf8) ∧
    ∀ cs, c = .utf8 → Marked bs cs →
      (UsualName a → ((Action.decodeWith others bs a).runOn h).1 = .ok (Text.ofChars cs)) ∧
      (¬UsualName a →
        ((Action.decodeWith others bs a).runOn h).1 = .ok (Text.ofChars ('\uFEFF' :: cs))) := by
  have hcodec {name : Text} (hname : UsualName name) (hc : Codec.named? name = .ok (some c)) :
      c = .utf8 := by
    rw [hname.named?] at hc
    cases hc
    rfl
  refine ⟨?_, fun husual => hcodec husual ha, ?_⟩
  · by_cases husual : UsualName a <;> by_cases husual' : UsualName b
    · have hsame := sameReading_of_named? others bs h (named?_sourceEncoding_of_usualName husual)
        (named?_sourceEncoding_of_usualName husual')
      simp [husual, husual', hsame]
    · cases hcodec husual ha
      simp [husual, husual', sameReading_usual_iff husual husual' hb]
    · cases hcodec husual' hb
      have hswapped : SameReading ((Action.decodeWith others bs b).runOn h).1
          ((Action.decodeWith others bs a).runOn h).1 ↔ ¬∃ cs, Marked bs cs :=
        sameReading_usual_iff husual' husual ha h
      simp only [husual, husual', false_iff, not_true, false_or, ← hswapped]
      exact ⟨.symm, .symm⟩
    · rw [← sourceEncoding_of_not_usualName husual] at ha
      rw [← sourceEncoding_of_not_usualName husual'] at hb
      simp [husual, husual', sameReading_of_named? others bs h ha hb]
  · rintro cs rfl ⟨rest, rfl, hrest⟩
    refine ⟨fun husual => ?_, fun husual => ?_⟩
    · rw [outcome_of_usualName husual, dropByteOrderMark, hrest]
      rfl
    · rw [outcome_of_not_usualName husual ha, utf8Decode_mark_eq_ok_iff.mpr ⟨cs, rfl, hrest⟩]
      rfl

/-- A reader for one letter of one codec. -/
def letterReader : OtherCodecs := fun codec bs =>
  if codec = "koi8_r" ∧ bs = [0xC1] then .ok (Text.ofString "а")
  else .error (.badBytes ⟨codec, .undefined, 0, bs⟩)

/-- Spellings of a codec with a reader of its own, and of UTF-8 with a mark in front of what is none. -/
theorem decodeWith_otherSpellings :
    SameReading ((Action.decodeWith letterReader [0xC1] (Text.ofString "KOI8-R")).runOn
        { inventory := ⟨[], []⟩ }).1
      ((Action.decodeWith letterReader [0xC1] (Text.ofString "cskoi8r")).runOn
        { inventory := ⟨[], []⟩ }).1 ∧
    SameReading ((Action.decodeWith letterReader [0xEF, 0xBB, 0xBF, 0xFF] (Text.ofString "UTF_8")).runOn
        { inventory := ⟨[], []⟩ }).1
      ((Action.decodeWith letterReader [0xEF, 0xBB, 0xBF, 0xFF] (Text.ofString "cp65001")).runOn
        { inventory := ⟨[], []⟩ }).1 := by
  have hother (name : String) (hname : (lowerCase (Text.ofString name).toChars).map
      (fun c => if c = '_' then '-' else c) ∉ ["utf-8".toList, "utf8".toList]) :
      ¬UsualName (Text.ofString name) := mt (map_lowerCase_mem_iff _).mpr hname
  obtain ⟨hkoi, -⟩ := decodeWith_spellings letterReader (a := Text.ofString "KOI8-R")
    (b := Text.ofString "cskoi8r") (c := .unread "koi8_r") (by rfl) (by rfl) [0xC1]
    { inventory := ⟨[], []⟩ }
  obtain ⟨hutf8, -⟩ := decodeWith_spellings letterReader (a := Text.ofString "UTF_8")
    (b := Text.ofString "cp65001") (c := .utf8) (by rfl) (by rfl) [0xEF, 0xBB, 0xBF, 0xFF]
    { inventory := ⟨[], []⟩ }
  refine ⟨hkoi.mpr (.inl ?_), hutf8.mpr (.inr ?_)⟩
  · exact iff_of_false (hother _ (by decide +kernel)) (hother _ (by decide +kernel))
  · rintro ⟨cs, rest, hbytes, hrest⟩
    cases hbytes
    rw [utf8Decode, utf8DecodeFrom] at hrest
    cases hrest

/-- UTF-8 under another of its names keeps the mark. -/
theorem markUnderAlias_kept :
    Codec.named? (Text.ofString "utf-8") = .ok (some .utf8) ∧
    Codec.named? (Text.ofString "u8") = .ok (some .utf8) ∧
    ((Action.decodeText [0xEF, 0xBB, 0xBF, 0x61] (Text.ofString "utf-8")).runOn
      { inventory := ⟨[], []⟩ }).1.toOption = some (Text.ofString "a") ∧
    ((Action.decodeText [0xEF, 0xBB, 0xBF, 0x61] (Text.ofString "u8")).runOn
      { inventory := ⟨[], []⟩ }).1.toOption = some (Text.ofString "\uFEFFa") := by
  refine ⟨rfl, rfl, ?_, ?_⟩ <;> decide +kernel

end MarkTex
