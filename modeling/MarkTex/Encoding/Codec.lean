import MarkTex.Encoding.Names
import MarkTex.Encoding.Utf8

/-!
# Codecs

A codec is found by any of its names. Names are compared after normalisation, so letter case and
punctuation do not matter. Not every codec is an encoding of text, and of those that are, this library
reads the ones that documents are found in.
-/

namespace MarkTex.Encoding

inductive Codec where
  | utf8
  /-- UTF-8 that may begin with a byte order mark. -/
  | utf8Signed
  | ascii
  | latin1
  | western
  /-- UTF-16 whose byte order is that of its mark, little-endian without one. -/
  | utf16
  | utf16Little
  | utf16Big
  /-- An encoding of text that this library does not read. -/
  | unread (name : String)
  /-- A codec that is no encoding of text. -/
  | transform (name : String)
deriving DecidableEq

/-- A name in its normal form, with `gap` telling that a run of other characters has just ended. -/
def normalizeFrom (gap started : Bool) : List Char → List Char
  | [] => []
  | c :: cs =>
    if c.isAlphanum || c == '.' then
      if gap && started then '_' :: c.toLower :: normalizeFrom false true cs
      else c.toLower :: normalizeFrom false true cs
    else normalizeFrom true started cs

/-- A name in lower case, with every inner run of characters other than letters, digits and points as
one underscore. -/
def normalize (cs : List Char) : String := String.ofList (normalizeFrom false false cs)

/-- The codec whose one name is given. -/
def Codec.ofName (name : String) : Codec :=
  match name with
  | "utf_8" => utf8
  | "utf_8_sig" => utf8Signed
  | "ascii" => ascii
  | "latin_1" => latin1
  | "cp1252" => western
  | "utf_16" => utf16
  | "utf_16_le" => utf16Little
  | "utf_16_be" => utf16Big
  | _ => if transforms.contains name then transform name else unread name

/-- The one name of the codec that a name in normal form belongs to. Points count as underscores,
unless the name has some of its own. -/
def canonicalName? (name : String) : Option String :=
  let among (n : String) := (codecNames.find? fun e => e.2.contains n).map (·.1)
  match among name with
  | some n => some n
  | none =>
  match among (String.ofList (name.toList.map fun c => if c = '.' then '_' else c)) with
  | some n => some n
  | none => if codecNames.any (·.1 = name) then some name else none

/-- Why a name cannot even be looked up. -/
inductive NameFault where
  | nullCharacter
  | unencodable (fault : Unencodable)
deriving DecidableEq

def NameFault.message : NameFault → String
  | nullCharacter => "embedded null character"
  | unencodable fault => fault.message

/-- The codec of a name, if there is one. -/
def Codec.named? (name : Text) : Except NameFault (Option Codec) :=
  match utf8OfText name with
  | .error u => .error (.unencodable u)
  | .ok _ =>
    if name.contains (.scalar '\x00') then .error .nullCharacter
    else .ok ((canonicalName? (normalize name.toChars)).map ofName)

end MarkTex.Encoding
