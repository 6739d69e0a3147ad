import MarkTex.Encoding.Utf8

/-!
# Percent encoding

Characters that cannot stand in the address of a link are written as the UTF-8 bytes of the character,
each as a percent sign and two hexadecimal digits.
-/

namespace MarkTex.Encoding

/-- Whether a character stands for itself in an address. -/
def isAddressChar (c : Char) : Bool :=
  c.isAlphanum || "_.-~:/?#@!$&()*+,;=%".toList.contains c

def upperHexDigit (n : Nat) : Char := Char.ofNat (if n < 10 then 48 + n else 55 + n)

def percentByte (b : UInt8) : List Char :=
  ['%', upperHexDigit (b.toNat / 16), upperHexDigit (b.toNat % 16)]

/-- An address with the characters that cannot stand in it encoded. -/
def percentEncode (cs : List Char) : List Char :=
  cs.flatMap fun c => if isAddressChar c then [c] else (utf8Char c).flatMap percentByte

end MarkTex.Encoding
