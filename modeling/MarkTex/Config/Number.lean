import MarkTex.Text.Integer

/-!
# Numbers from digits

The formats of configuration files write numbers with the same digits; a decimal number stands for the
double nearest to it, and a whole number has no more digits than numbers may have.
-/

namespace MarkTex.Config

def hexValue? (c : Char) : Option Nat :=
  if '0' ≤ c ∧ c ≤ '9' then some (c.toNat - 48)
  else if 'a' ≤ c ∧ c ≤ 'f' then some (c.toNat - 87)
  else if 'A' ≤ c ∧ c ≤ 'F' then some (c.toNat - 55)
  else none

def digitsToNat (ds : List Char) : Nat := ds.foldl (fun n d => 10 * n + (d.toNat - 48)) 0

/-- A row of too many digits for a whole number, by their count. -/
structure LongNumber where
  count : Nat
deriving DecidableEq

/-- The whole number that decimal digits write behind a sign. -/
def wholeNumber (negative : Bool) (ds : List Char) : Except LongNumber Int :=
  if Integer.digitBound < ds.length then .error ⟨ds.length⟩
  else
    let n : Int := digitsToNat ds
    .ok (if negative then -n else n)

/-- The double nearest to the decimal number with the given digits, those after the point, and
exponent. -/
def decimalFloat (negative : Bool) (whole fraction : List Char) (exponent : Int) : Float :=
  let mantissa := digitsToNat (whole ++ fraction)
  let e := exponent - fraction.length
  let digits : Int := (Nat.toDigits 10 mantissa).length
  let x :=
    if mantissa = 0 ∨ digits + e < -400 then 0.0
    else if 400 < digits + e then 1.0 / 0.0
    else match e with
      | .ofNat e => Float.ofScientific mantissa false e
      | .negSucc e => Float.ofScientific mantissa true (e + 1)
  if negative then -x else x

def digitsInBase (base : Nat) (ds : List Char) : Nat :=
  ds.foldl (fun n d => base * n + (hexValue? d).getD 0) 0

end MarkTex.Config
