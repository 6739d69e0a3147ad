/-!
# The Western code page

Code page 1252 agrees with the first 256 characters of Unicode but for the bytes from 128 to 159: 27
of them are punctuation and letters, and five are undefined.
-/

namespace MarkTex.Encoding

/-- The characters of the bytes from 128 to 159. -/
def westernHigh : List (Option Char) :=
  [some '€', none, some '‚', some 'ƒ', some '„', some '…', some '†', some '‡',
   some 'ˆ', some '‰', some 'Š', some '‹', some 'Œ', none, some 'Ž', none,
   none, some '‘', some '’', some '“', some '”', some '•', some '–', some '—',
   some '˜', some '™', some 'š', some '›', some 'œ', none, some 'ž', some 'Ÿ']

def westernChar? (n : Nat) : Option Char :=
  if 0x80 ≤ n ∧ n < 0xA0 then (westernHigh[n - 0x80]?).join
  else if n < 0x100 then some (Char.ofNat n)
  else none

end MarkTex.Encoding
