import MarkTex.Text.Quoted

/-!
# UTF-8

Characters as bytes and back. Reading refuses whatever is not the shortest form of a character and
tells which bytes are at fault: those that are well-formed as the beginning of a character, up to the
byte that cannot continue it.
-/

namespace MarkTex.Encoding

/-- The UTF-8 bytes of a character. -/
def utf8Char (c : Char) : List UInt8 :=
  let n := c.toNat
  if n < 0x80 then [n.toUInt8]
  else if n < 0x800 then [(0xC0 + n / 64).toUInt8, (0x80 + n % 64).toUInt8]
  else if n < 0x10000 then
    [(0xE0 + n / 4096).toUInt8, (0x80 + n / 64 % 64).toUInt8, (0x80 + n % 64).toUInt8]
  else
    [(0xF0 + n / 262144).toUInt8, (0x80 + n / 4096 % 64).toUInt8, (0x80 + n / 64 % 64).toUInt8,
     (0x80 + n % 64).toUInt8]

def utf8Encode (cs : List Char) : List UInt8 := cs.flatMap utf8Char

/-- Surrogates that cannot be written: the first of them, its place in the text, and how many stand
together. -/
structure Unencodable where
  first : CodePoint
  position : Nat
  count : Nat
deriving DecidableEq

/-- The wording of the fault: a single surrogate is shown, several are only counted. -/
def Unencodable.message (u : Unencodable) : String :=
  let place :=
    if u.count = 1 then
      "character '" ++ numberEscape u.first.toNat ++ "' in position " ++ toString u.position
    else
      "characters in position " ++ toString u.position ++ "-" ++
        toString (u.position + u.count - 1)
  "'utf-8' codec can't encode " ++ place ++ ": surrogates not allowed"

def utf8OfText (t : Text) : Except Unencodable (List UInt8) :=
  match t.chars? with
  | some cs => .ok (utf8Encode cs)
  | none =>
    let i := (t.takeWhile fun c => c.char?.isSome).length
    .error ⟨t.getD i (.scalar '\uFFFD'), i, ((t.drop i).takeWhile fun c => c.char?.isNone).length⟩

inductive ByteProblem where
  | invalidStart
  | invalidContinuation
  | unexpectedEnd
  | notAscii
  | undefined
  | truncated
  | illegalEncoding
  | illegalSurrogate
deriving DecidableEq

def ByteProblem.message : ByteProblem → String
  | invalidStart => "invalid start byte"
  | invalidContinuation => "invalid continuation byte"
  | unexpectedEnd => "unexpected end of data"
  | notAscii => "ordinal not in range(128)"
  | undefined => "character maps to <undefined>"
  | truncated => "truncated data"
  | illegalEncoding => "illegal encoding"
  | illegalSurrogate => "illegal UTF-16 surrogate"

/-- The character at the head of bytes, with the number of its bytes after the first; or a problem,
with the number of bytes at fault. -/
inductive Utf8Head where
  | char (c : Char) (more : Nat)
  | bad (problem : ByteProblem) (count : Nat)

def isContinuation (b : UInt8) : Bool := 0x80 ≤ b && b < 0xC0

/-- Whether a byte can follow the first byte of a character of three or four bytes: what it would make
with it is no surrogate, in range, and has no shorter form. -/
def canFollow (first second : UInt8) : Bool :=
  isContinuation second &&
    (if first = 0xE0 then 0xA0 ≤ second
     else if first = 0xED then second < 0xA0
     else if first = 0xF0 then 0x90 ≤ second
     else if first = 0xF4 then second < 0x90
     else true)

/-- The lower six bits of a byte that continues a character. -/
def sixBits (b : UInt8) : Nat := b.toNat % 64

/-- The character that begins with a byte and goes on with the bytes after it. -/
def utf8Head (b : UInt8) (rest : List UInt8) : Utf8Head :=
  let n := b.toNat
  if n < 0x80 then .char (Char.ofNat n) 0
  -- bytes that continue a character, and those of a form that is longer than need be
  else if n < 0xC2 then .bad .invalidStart 1
  else if n < 0xE0 then
    match rest with
    | [] => .bad .unexpectedEnd 1
    | c :: _ =>
      if isContinuation c then .char (Char.ofNat (n % 32 * 64 + sixBits c)) 1
      else .bad .invalidContinuation 1
  else if n < 0xF0 then
    match rest with
    | [] => .bad .unexpectedEnd 1
    -- how many bytes are at fault depends on those that are there
    | [c] => if canFollow b c then .bad .unexpectedEnd 2 else .bad .invalidContinuation 1
    | c :: d :: _ =>
      if !canFollow b c then .bad .invalidContinuation 1
      else if !isContinuation d then .bad .invalidContinuation 2
      else .char (Char.ofNat (n % 16 * 4096 + sixBits c * 64 + sixBits d)) 2
  else if n < 0xF5 then
    match rest with
    | [] => .bad .unexpectedEnd 1
    | [c] => if canFollow b c then .bad .unexpectedEnd 2 else .bad .invalidContinuation 1
    | [c, d] =>
      if !canFollow b c then .bad .invalidContinuation 1
      else if isContinuation d then .bad .unexpectedEnd 3
      else .bad .invalidContinuation 2
    | c :: d :: e :: _ =>
      if !canFollow b c then .bad .invalidContinuation 1
      else if !isContinuation d then .bad .invalidContinuation 2
      else if !isContinuation e then .bad .invalidContinuation 3
      else
        .char (Char.ofNat (n % 8 * 262144 + sixBits c * 4096 + sixBits d * 64 + sixBits e)) 3
  else .bad .invalidStart 1

/-- Bytes at fault: what is wrong, where they begin, and the bytes. -/
structure BadBytes where
  problem : ByteProblem
  position : Nat
  bytes : List UInt8
deriving DecidableEq

/-- The characters of bytes that begin at a position. -/
def utf8DecodeFrom (position : Nat) : List UInt8 → Except BadBytes (List Char)
  | [] => .ok []
  | b :: rest =>
    match utf8Head b rest with
    | .bad problem count => .error ⟨problem, position, (b :: rest).take count⟩
    | .char c more =>
      match utf8DecodeFrom (position + 1 + more) (rest.drop more) with
      | .ok cs => .ok (c :: cs)
      | .error e => .error e
termination_by bs => bs.length
decreasing_by simp only [List.length_drop, List.length_cons]; omega

def utf8Decode (bs : List UInt8) : Except BadBytes (List Char) := utf8DecodeFrom 0 bs

end MarkTex.Encoding
