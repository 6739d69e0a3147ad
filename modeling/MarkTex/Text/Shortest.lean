/-!
# The shortest decimal of a binary fraction

A finite double is a whole number times a power of two. Every real between its two half-way points to
its neighbours reads back as the same double. `shortestDigits` finds the shortest decimal in that
interval, and of several the one nearest to the double, in exact arithmetic on natural numbers.

`floatText` lays the digits out: positional for decimal exponents from -4 to 15, with `.0` after a
whole number, and otherwise with an exponent of at least two digits.
-/

namespace MarkTex

/-- A finite double above zero: `mantissa * 2 ^ exponent`, with whether it is the least one of its
binade, whose lower neighbour is only half as far away. -/
structure BinaryFraction where
  mantissa : Nat
  exponent : Int
  atBinadeStart : Bool

namespace BinaryFraction

/-- The magnitude of a finite double from its bits; `none` for infinities and NaN. -/
def ofBits? (bits : UInt64) : Option BinaryFraction :=
  let fraction : Nat := bits.toNat % Nat.pow 2 52
  let biased : Nat := bits.toNat / Nat.pow 2 52 % Nat.pow 2 11
  if biased = 2047 then none
  else if biased = 0 then some ⟨fraction, -1074, false⟩
  else some ⟨Nat.pow 2 52 + fraction, (biased : Int) - 1075, fraction = 0 ∧ 1 < biased⟩

/-- The fraction, its lower bound and its upper bound, all multiplied by four, over one denominator. -/
def scaled (x : BinaryFraction) : Nat × Nat × Nat × Nat :=
  let m := 4 * x.mantissa
  let below := if x.atBinadeStart then 1 else 2
  match x.exponent with
  | .ofNat e => (m * Nat.pow 2 e, (m - below) * Nat.pow 2 e, (m + 2) * Nat.pow 2 e, 4)
  | .negSucc e => (m, m - below, m + 2, 4 * Nat.pow 2 (e + 1))

def digitCount (n : Nat) : Nat := (Nat.toDigits 10 n).length

/-- Whether the decimal `d * 10 ^ e` reads back as the fraction: it lies between the bounds, and may
lie on one when the mantissa is even. -/
def readsBack (x : BinaryFraction) (d : Nat) (e : Int) : Bool :=
  let (_, low, high, den) := x.scaled
  let (d, low, high) :=
    match e with
    | .ofNat e => (d * den * Nat.pow 10 e, low, high)
    | .negSucc e => (d * den, low * Nat.pow 10 (e + 1), high * Nat.pow 10 (e + 1))
  if x.mantissa % 2 = 0 then low ≤ d && d ≤ high else low < d && d < high

/-- The whole number of steps of size `10 ^ e` at or below the fraction, and whether the fraction is
nearer to the next step; at half a step the even number counts as nearer. -/
def stepsOf (x : BinaryFraction) (e : Int) : Nat × Bool :=
  let (value, _, _, den) := x.scaled
  let (num, den) :=
    match e with
    | .ofNat e => (value, den * Nat.pow 10 e)
    | .negSucc e => (value * Nat.pow 10 (e + 1), den)
  let q := num / den
  let r := 2 * (num % den)
  (q, den < r || (den == r && q % 2 == 1))

/-- The decimal exponent of the leading digit of the fraction. -/
def leadingExponent (x : BinaryFraction) : Int :=
  let (value, _, _, den) := x.scaled
  let guess : Int := (digitCount value : Int) - digitCount den
  let reaches (e : Int) : Bool :=
    match e with
    | .ofNat e => den * Nat.pow 10 e ≤ value
    | .negSucc e => den ≤ value * Nat.pow 10 (e + 1)
  if reaches guess then guess else guess - 1

/-- The shortest decimal that reads back as the fraction, as digits and the exponent of the last. -/
def shortest (x : BinaryFraction) : Nat × Int :=
  go 17 (x.leadingExponent)
where
  go (left : Nat) (e : Int) : Nat × Int :=
    let (q, up) := x.stepsOf e
    let first := if up then q + 1 else q
    let second := if up then q else q + 1
    if 0 < first && x.readsBack first e then (first, e)
    else if 0 < second && x.readsBack second e then (second, e)
    else match left with
      | 0 => (first, e)
      | n + 1 => go n (e - 1)

end BinaryFraction

/-- The digits of a number without the zeros at its end, and how many zeros there were. -/
def dropTrailingZeros (ds : List Char) : List Char × Nat :=
  let kept := (ds.reverse.dropWhile (· == '0')).reverse
  (kept, ds.length - kept.length)

/-- Decimal digits laid out as a number: the exponent is that of the last digit. -/
def layOutDecimal (digits : Nat) (last : Int) : String :=
  let (ds, zeros) := dropTrailingZeros (Nat.toDigits 10 digits)
  let last := last + zeros
  let lead := last + ds.length - 1
  -- between these powers of ten a number is written out
  if -4 ≤ lead ∧ lead < 16 then
    if 0 ≤ last then
      String.ofList (ds ++ List.replicate last.toNat '0') ++ ".0"
    else if 0 ≤ lead then
      String.ofList (ds.take (lead.toNat + 1)) ++ "." ++ String.ofList (ds.drop (lead.toNat + 1))
    else
      "0." ++ String.ofList (List.replicate (-lead - 1).toNat '0' ++ ds)
  else
    let exponent := toString lead.natAbs
    let exponent := if exponent.length < 2 then "0" ++ exponent else exponent
    let mantissa :=
      match ds with
      | d :: [] => String.ofList [d]
      | d :: rest => String.ofList (d :: '.' :: rest)
      | [] => "0"
    mantissa ++ (if lead < 0 then "e-" else "e+") ++ exponent

/-- The text of a double: the shortest decimal that reads back. -/
def floatText (x : Float) : String :=
  let bits := x.toBits
  let sign := if bits.toNat / Nat.pow 2 63 = 1 then "-" else ""
  match BinaryFraction.ofBits? bits with
  | none => if bits.toNat % Nat.pow 2 52 = 0 then sign ++ "inf" else "nan"
  | some f =>
    if f.mantissa = 0 then sign ++ "0.0"
    else
      let (d, e) := f.shortest
      sign ++ layOutDecimal d e

end MarkTex
