import MarkTex.Encoding.Codec
import MarkTex.Encoding.Western
import MarkTex.Text.Case

/-!
# Decoding a source

A source in bytes is decoded by the codec that the options name. Under the usual names of UTF-8 a byte
order mark at the head is dropped. Bytes that the codec cannot decode are a fault, and so is a name
that no codec has or whose codec is no encoding of text.
-/

namespace MarkTex.Encoding

/-- The characters of bytes, each decoded on its own. -/
def decodeEach (problem : ByteProblem) (char? : Nat → Option Char) (position : Nat) :
    List UInt8 → Except BadBytes (List Char)
  | [] => .ok []
  | b :: rest =>
    match char? b.toNat with
    | none => .error ⟨problem, position, [b]⟩
    | some c => (decodeEach problem char? (position + 1) rest).map (c :: ·)

def asciiChar? (n : Nat) : Option Char := if n < 0x80 then some (Char.ofNat n) else none

/-- The characters of Latin-1, which are the first 256 of Unicode. -/
def latin1Char? (n : Nat) : Option Char := some (Char.ofNat n)

inductive ByteOrder where
  | little
  | big
deriving DecidableEq

/-- The unit that two bytes make. -/
def ByteOrder.unit (order : ByteOrder) (a b : UInt8) : Nat :=
  match order with
  | little => a.toNat + 256 * b.toNat
  | big => 256 * a.toNat + b.toNat

/-- The characters of UTF-16 bytes that begin at a position. -/
def utf16DecodeFrom (order : ByteOrder) (position : Nat) :
    List UInt8 → Except BadBytes (List Char)
  | [] => .ok []
  | [a] => .error ⟨.truncated, position, [a]⟩
  | a :: b :: rest =>
    let u := order.unit a b
    if 0xDC00 ≤ u ∧ u < 0xE000 then .error ⟨.illegalEncoding, position, [a, b]⟩
    else if 0xD800 ≤ u ∧ u < 0xDC00 then
      match rest with
      | c :: d :: rest' =>
        let v := order.unit c d
        if 0xDC00 ≤ v ∧ v < 0xE000 then
          (utf16DecodeFrom order (position + 4) rest').map
            (Char.ofNat (0x10000 + (u - 0xD800) * 1024 + (v - 0xDC00)) :: ·)
        else .error ⟨.illegalSurrogate, position, [a, b]⟩
      | _ => .error ⟨.unexpectedEnd, position, a :: b :: rest⟩
    else (utf16DecodeFrom order (position + 2) rest).map (Char.ofNat u :: ·)

/-- Bytes that a codec cannot decode, with the name under which the codec complains. -/
structure DecodeFault where
  codec : String
  bad : BadBytes
deriving DecidableEq

def DecodeFault.message (f : DecodeFault) : String :=
  let count := f.bad.bytes.length
  let place :=
    if count = 1 then
      "byte 0x" ++ paddedHex 2 (f.bad.bytes.headD 0).toNat ++ " in position " ++
        toString f.bad.position
    else
      "bytes in position " ++ toString f.bad.position ++ "-" ++
        toString (f.bad.position + count - 1)
  "'" ++ f.codec ++ "' codec can't decode " ++ place ++ ": " ++ f.bad.problem.message

/-- Bytes without the byte order mark of UTF-8 at their head. -/
def dropByteOrderMark : List UInt8 → List UInt8
  | 0xEF :: 0xBB :: 0xBF :: rest => rest
  | bs => bs

def withName (codec : String) (r : Except BadBytes (List Char)) :
    Except DecodeFault (List Char) := r.mapError fun bad => ⟨codec, bad⟩

/-- Why bytes cannot be decoded under a name. -/
inductive Undecodable where
  | malformed (fault : DecodeFault)
  | unknownName (name : Text)
  | notTextual (name : Text)
  /-- A codec that this library does not read. -/
  | unread (name : String)
  | nameFault (fault : NameFault)
deriving DecidableEq

/-- The text of bytes under a codec; `name` is the name that the codec was found under. -/
def Codec.decode (name : Text) (bs : List UInt8) : Codec → Except Undecodable (List Char)
  | utf8 => (withName "utf-8" (utf8Decode bs)).mapError .malformed
  | utf8Signed => (withName "utf-8" (utf8Decode (dropByteOrderMark bs))).mapError .malformed
  | ascii => (withName "ascii" (decodeEach .notAscii asciiChar? 0 bs)).mapError .malformed
  | latin1 => (withName "latin-1" (decodeEach .undefined latin1Char? 0 bs)).mapError .malformed
  | western => (withName "charmap" (decodeEach .undefined westernChar? 0 bs)).mapError .malformed
  | utf16Little => (withName "utf-16-le" (utf16DecodeFrom .little 0 bs)).mapError .malformed
  | utf16Big => (withName "utf-16-be" (utf16DecodeFrom .big 0 bs)).mapError .malformed
  | utf16 =>
    match bs with
    | 0xFF :: 0xFE :: rest =>
      (withName "utf-16-le" (utf16DecodeFrom .little 2 rest)).mapError .malformed
    | 0xFE :: 0xFF :: rest =>
      (withName "utf-16-be" (utf16DecodeFrom .big 2 rest)).mapError .malformed
    | _ => (withName "utf-16-le" (utf16DecodeFrom .little 0 bs)).mapError .malformed
  | unread codec => .error (.unread codec)
  | transform _ => .error (.notTextual name)

def Undecodable.message : Undecodable → Text
  | malformed f => Text.ofString f.message
  | unknownName name => Text.ofString "unknown encoding: " ++ name
  | notTextual name =>
    Text.ofString "'" ++ name ++
      Text.ofString "' is not a text encoding; use codecs.decode() to handle arbitrary codecs"
  | unread name => Text.ofString ("codec not available: " ++ name)
  | nameFault fault => Text.ofString fault.message

/-- The name under which a source is decoded: the usual names of UTF-8 stand for UTF-8 with an
optional byte order mark. -/
def sourceEncoding (name : Text) : Text :=
  let plain := (lowerCase name.toChars).map fun c => if c = '_' then '-' else c
  if plain = "utf-8".toList ∨ plain = "utf8".toList then Text.ofString "utf-8-sig" else name

/-- The text of a source. No bytes are the empty text under any name. -/
def decodeNamed (name : Text) (bs : List UInt8) : Except Undecodable (List Char) :=
  match Codec.named? name with
  | .error f => .error (.nameFault f)
  | .ok codec =>
    if bs.isEmpty then .ok []
    else
      match codec with
      | none => .error (.unknownName name)
      | some c => c.decode name bs

end MarkTex.Encoding
