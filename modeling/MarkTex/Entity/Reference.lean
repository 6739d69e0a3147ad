import MarkTex.Entity.Names
import MarkTex.Text.Integer
import MarkTex.Text.Range
import MarkTex.Encoding.Western

/-!
# Character references

A reference stands for one or more characters: by number (`&#36;`, `&#x24;`) or by name (`&lt;`). Two
readings exist. The lenient one takes a reference without its semicolon where the HTML standard does
for old documents; the strict one needs the semicolon. A decimal number of more digits than a number may
have cannot be read at all: what reads a document or a fragment leniently asks `longNumber?` first.
-/

namespace MarkTex.Entity

/-- The numbers whose reference stands for nothing. -/
def droppedNumbers : List (Nat × Nat) :=
  [(0x1, 0x8), (0xB, 0xB), (0xE, 0x1F), (0x7F, 0x9F), (0xFDD0, 0xFDEF)]

/-- The characters that a reference by number stands for. The numbers from 128 to 159 mean what they
mean in the Western code page of old documents, and a number that is no character means U+FFFD. -/
def byNumber (n : Nat) : List Char :=
  if n = 0 then ['\uFFFD']
  else if n = 0x0D then ['\r']
  else if 0x80 ≤ n ∧ n < 0xA0 then [(Encoding.westernChar? n).getD (Char.ofNat n)]
  else if (0xD800 ≤ n ∧ n < 0xE000) ∨ 0x10FFFF < n then ['\uFFFD']
  else if inRanges droppedNumbers n ∨ (0xFFFE ≤ n ∧ n % 0x10000 ≥ 0xFFFE) then []
  else [Char.ofNat n]

def named? (name : String) : Option String := (names.find? (·.1 == name)).map (·.2)

/-- The characters that a name stands for, a semicolon at its end being part of the reference. -/
def exactName? (name : List Char) : Option (List Char) :=
  match name.reverse with
  | ';' :: rest => (named? (String.ofList rest.reverse)).map String.toList
  | _ =>
    let s := String.ofList name
    if unterminatedNames.contains s then (named? s).map String.toList else none

/-- The longest beginning of a name, of at least two characters, that is known without a semicolon. -/
def longestName? (name : List Char) : Nat → Option (List Char)
  | 0 | 1 => none
  | n + 2 =>
    match exactName? (name.take (n + 2)) with
    | some cs => some (cs ++ name.drop (n + 2))
    | none => longestName? name (n + 1)

/-- The characters that a reference by name stands for: those of the name, or those of the longest
beginning of it that is known, or the reference as it is written. -/
def byName (name : List Char) : List Char :=
  match exactName? name with
  | some cs => cs
  | none => (longestName? name (name.length - 1)).getD ('&' :: name)

def digitsValue (base : Nat) (ds : List Char) : Nat :=
  ds.foldl (fun n d =>
    base * n + (if d ≤ '9' then d.toNat - 48 else if d ≤ 'F' then d.toNat - 55 else d.toNat - 87)) 0

def isHexDigit (c : Char) : Bool :=
  c.isDigit || ('a' ≤ c && c ≤ 'f') || ('A' ≤ c && c ≤ 'F')

def isNameChar (c : Char) : Bool :=
  !(c == '\t' || c == '\n' || c == '\x0c' || c == ' ' || c == '<' || c == '&' || c == '#' || c == ';')

/-- How a reference is read. -/
inductive Reading where
  | lenient
  | strict
deriving DecidableEq

/-- The end of a reference whose digits or letters have been read: its replacement, with how many
characters it takes after the ampersand. -/
def finish (r : Reading) (rest : List Char) (taken : Nat) (value : Bool → List Char) :
    Option (List Char × Nat) :=
  match rest.drop taken with
  | ';' :: _ => some (value true, taken + 1)
  | _ => if r = .lenient then some (value false, taken) else none

/-- The reference after an ampersand: its replacement, with how many characters it takes. -/
def referenceAt? (r : Reading) (rest : List Char) : Option (List Char × Nat) :=
  let hexadecimal (ds : List Char) : Option (List Char × Nat) :=
    let hs := ds.takeWhile isHexDigit
    if hs.isEmpty then none else finish r rest (hs.length + 2) fun _ => byNumber (digitsValue 16 hs)
  match rest with
  | '#' :: 'x' :: ds => hexadecimal ds
  | '#' :: 'X' :: ds => hexadecimal ds
  | '#' :: ds =>
    let hs := ds.takeWhile Char.isDigit
    if hs.isEmpty ∨ (r = .strict ∧ 7 < hs.length) then none
    else finish r rest (hs.length + 1) fun _ => byNumber (digitsValue 10 hs)
  | _ =>
    let name := (rest.takeWhile isNameChar).take 32
    if name.isEmpty then none
    else finish r rest name.length fun closed => byName (if closed then name ++ [';'] else name)

/-- Characters with their references replaced; `skip` characters belong to the reference before. -/
def decodeFrom (r : Reading) (skip : Nat) : List Char → List Char
  | [] => []
  | c :: rest =>
    match skip with
    | n + 1 => decodeFrom r n rest
    | 0 =>
      match if c = '&' then referenceAt? r rest else none with
      | some (cs, taken) => cs ++ decodeFrom r taken rest
      | none => c :: decodeFrom r 0 rest

/-- The number of digits of a decimal number after an ampersand and a hash, if they are too many. -/
def longNumberAt? : List Char → Option Nat
  | '#' :: ds =>
    let count := (ds.takeWhile Char.isDigit).length
    if Integer.digitBound < count then some count else none
  | _ => none

/-- The number of digits of the first reference whose decimal number has too many of them. -/
def longNumber? : List Char → Option Nat
  | [] => none
  | c :: rest => (if c = '&' then longNumberAt? rest else none) <|> longNumber? rest

/-- Characters with their references replaced. -/
def decode (r : Reading) (cs : List Char) : List Char := decodeFrom r 0 cs

end MarkTex.Entity
