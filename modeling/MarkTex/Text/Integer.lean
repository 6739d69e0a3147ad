import MarkTex.Text.Blank
import MarkTex.Text.Digit
import MarkTex.Text.Quoted

/-!
# Integers in texts

An integer is written in the decimal digits of any script, with a sign if need be, blanks around it and
single underscores between the digits. In the bases two, eight and sixteen letters name the base; in
base ten there is a bound on the number of digits.
-/

namespace MarkTex

/-- The value of a digit or a letter that counts as one. -/
def digitOrLetterValue? (c : Char) : Option Nat :=
  if 'a' ≤ c ∧ c ≤ 'z' then some (c.toNat - 87)
  else if 'A' ≤ c ∧ c ≤ 'Z' then some (c.toNat - 55)
  else decimalValue? c

namespace Integer

/-- The sign at the head of a number: whether it is a minus, and what follows it. -/
def readSign : List Char → Bool × List Char
  | '-' :: rest => (true, rest)
  | '+' :: rest => (false, rest)
  | cs => (false, cs)

/-- What follows the letters that name a base. -/
def afterBase (base : Nat) : List Char → List Char
  | '0' :: letter :: rest =>
    let named :=
      (base = 2 ∧ (letter = 'b' ∨ letter = 'B')) ∨ (base = 8 ∧ (letter = 'o' ∨ letter = 'O')) ∨
        (base = 16 ∧ (letter = 'x' ∨ letter = 'X'))
    if named then (if rest.head? = some '_' then rest.tail else rest) else '0' :: letter :: rest
  | cs => cs

/-- The number that digits write after those read so far. Every underscore stands between two
digits. -/
def readDigits? (base : Nat) : Nat → List Char → Option Nat
  | n, [] => some n
  | n, '_' :: c :: rest =>
    (digitOrLetterValue? c).bind fun d => if d < base then readDigits? base (base * n + d) rest else none
  | n, c :: rest =>
    (digitOrLetterValue? c).bind fun d => if d < base then readDigits? base (base * n + d) rest else none

/-- The most digits that a number in base ten may have. -/
def digitBound : Nat := 4300

/-- How many digits a text begins with, if they are too many for its base. -/
def excess? (base : Nat) (t : Text) : Option Nat :=
  let row := (readSign t.trim.toChars).2.takeWhile fun c => isDecimalDigit c || c == '_'
  let count := (row.filter isDecimalDigit).length
  if base = 10 ∧ digitBound < count then some count else none

def ofText? (base : Nat) (t : Text) : Option Int := do
  if (excess? base t).isSome then none
  let cs ← t.trim.chars?
  let (minus, body) := readSign cs
  match afterBase base body with
  | [] => none
  | '_' :: _ => none
  | digits =>
    let n ← readDigits? base 0 digits
    some (if minus then -(n : Int) else n)

def excessMessage (count : Nat) : String :=
  "Exceeds the limit (4300 digits) for integer string conversion: value has " ++ toString count ++
    " digits; use sys.set_int_max_str_digits() to increase the limit"

def refusal (base : Nat) (t : Text) : String :=
  match excess? base t with
  | some count => excessMessage count
  | none => "invalid literal for int() with base " ++ toString base ++ ": " ++ quoted t

end Integer

end MarkTex
