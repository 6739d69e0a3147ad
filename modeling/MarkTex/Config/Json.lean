import MarkTex.Config.Number
import MarkTex.Config.Value

/-!
# Reading JSON

JSON as configuration files hold it: the standard's values, and the constants `NaN`, `Infinity` and
`-Infinity`. The reader stops at the first fault and says where it stands. Every step takes a bound on
the depth of the value; the length of the text is always enough.
-/

namespace MarkTex.Config.Json

inductive Problem where
  | expectingValue
  | expectingName
  | expectingColon
  | expectingComma
  | unterminatedString
  | controlCharacter
  | badEscape
  | badUnicodeEscape
  | extraData
  | byteOrderMark
  | longNumber (number : LongNumber)
deriving DecidableEq

def Problem.message : Problem → String
  | .expectingValue => "Expecting value"
  | .expectingName => "Expecting property name enclosed in double quotes"
  | .expectingColon => "Expecting ':' delimiter"
  | .expectingComma => "Expecting ',' delimiter"
  | .unterminatedString => "Unterminated string starting at"
  | .controlCharacter => "Invalid control character at"
  | .badEscape => "Invalid \\escape"
  | .badUnicodeEscape => "Invalid \\uXXXX escape"
  | .extraData => "Extra data"
  | .byteOrderMark => "Unexpected UTF-8 BOM (decode using utf-8-sig)"
  | .longNumber number => Integer.excessMessage number.count

/-- A problem together with the part of the text that begins where it was found. -/
structure Stop where
  problem : Problem
  rest : List Char

/-- A problem at a line, a column (both counted from one) and an offset (counted from zero). -/
structure Fault where
  problem : Problem
  line : Nat
  column : Nat
  offset : Nat
deriving DecidableEq

def Fault.message (f : Fault) : String :=
  f.problem.message ++ ": line " ++ toString f.line ++ " column " ++ toString f.column ++
    " (char " ++ toString f.offset ++ ")"

/-- A result with the characters that follow it. -/
abbrev Reader (α : Type) := List Char → Except Stop (α × List Char)

/-- The text after the blanks that JSON allows between its parts. -/
def skipSpace (cs : List Char) : List Char :=
  cs.dropWhile fun c => c == ' ' || c == '\t' || c == '\n' || c == '\r'

/-- The number that four hexadecimal digits at the head of a text write. -/
def fourHex? : List Char → Option (Nat × List Char)
  | a :: b :: c :: d :: rest => do
    let a ← hexValue? a
    let b ← hexValue? b
    let c ← hexValue? c
    let d ← hexValue? d
    some (4096 * a + 256 * b + 16 * c + d, rest)
  | _ => none

def simpleEscape? : Char → Option Char
  | '"' => some '"'
  | '\\' => some '\\'
  | '/' => some '/'
  | 'b' => some '\x08'
  | 'f' => some '\x0c'
  | 'n' => some '\n'
  | 'r' => some '\r'
  | 't' => some '\t'
  | _ => none

def longerThan (n : Nat) (cs : List Char) : Bool := !(cs.drop n).isEmpty

/-- A code point by number; the numbers here are all in range. -/
def codePoint (n : Nat) : CodePoint := (CodePoint.ofNat? n).getD (.scalar '\uFFFD')

/-- The code point written by a `\u` escape whose four digits have been read, a surrogate pair taken
together. The first argument is the number of those digits, the second the text after them. -/
def finishUnicode (n : Nat) (rest : List Char) : Except Stop (CodePoint × List Char) :=
  match rest with
  | '\\' :: 'u' :: rest' =>
    if 0xD800 ≤ n ∧ n < 0xDC00 ∧ longerThan 6 rest then
      match fourHex? rest' with
      | none => .error ⟨.badUnicodeEscape, 'u' :: rest'⟩
      | some (m, rest'') =>
        if 0xDC00 ≤ m ∧ m < 0xE000 then
          .ok (codePoint (0x10000 + 1024 * (n - 0xD800) + (m - 0xDC00)), rest'')
        else .ok (codePoint n, rest)
    else .ok (codePoint n, rest)
  | _ => .ok (codePoint n, rest)

/-- The rest of a string after its opening quote; `start` is the text from that quote on. -/
def readString (start : List Char) : Nat → Text → Reader Text
  | 0, _, _ => .error ⟨.unterminatedString, start⟩
  | fuel + 1, acc, cs =>
    match cs with
    | [] => .error ⟨.unterminatedString, start⟩
    | '"' :: rest => .ok (acc.reverse, rest)
    | '\\' :: rest =>
      match rest with
      | [] => .error ⟨.unterminatedString, start⟩
      | 'u' :: rest' =>
        match if longerThan 4 rest' then fourHex? rest' else none with
        | none => .error ⟨.badUnicodeEscape, rest⟩
        | some (n, rest'') =>
          match finishUnicode n rest'' with
          | .ok (c, rest''') => readString start fuel (c :: acc) rest'''
          | .error e => .error e
      | c :: rest' =>
        match simpleEscape? c with
        | some d => readString start fuel (.scalar d :: acc) rest'
        | none => .error ⟨.badEscape, cs⟩
    | c :: rest =>
      if c.toNat < 0x20 then .error ⟨.controlCharacter, cs⟩
      else readString start fuel (.scalar c :: acc) rest

/-- A number; `none` when the text begins with none. -/
def readNumber? (cs : List Char) : Option (Except LongNumber Value × List Char) :=
  let (negative, body) :=
    match cs with
    | '-' :: rest => (true, rest)
    | _ => (false, cs)
  let whole :=
    match body with
    -- what follows a zero is no part of the number
    | '0' :: _ => ['0']
    | _ => body.takeWhile Char.isDigit
  if whole.isEmpty then none
  else
    let rest := body.drop whole.length
    let (fraction, rest) :=
      match rest with
      -- a point without a digit behind it, and an exponent without one, belong to what follows
      | '.' :: d :: rest' =>
        if d.isDigit then
          let ds := (d :: rest').takeWhile Char.isDigit
          (some ds, (d :: rest').drop ds.length)
        else (none, rest)
      | _ => (none, rest)
    let (exponent, rest) :=
      match rest with
      | e :: rest' =>
        if e = 'e' ∨ e = 'E' then
          let (minus, tail) :=
            match rest' with
            | '-' :: tail => (true, tail)
            | '+' :: tail => (false, tail)
            | _ => (false, rest')
          let ds := tail.takeWhile Char.isDigit
          if ds.isEmpty then (none, rest)
          else
            let n : Int := digitsToNat ds
            (some (if minus then -n else n), tail.drop ds.length)
        else (none, rest)
      | [] => (none, rest)
    if fraction.isNone && exponent.isNone then
      some ((wholeNumber negative whole).map .int, rest)
    else
      some (.ok (.float (decimalFloat negative whole (fraction.getD []) (exponent.getD 0))), rest)

def afterWord? (word : String) (cs : List Char) : Option (List Char) :=
  if word.toList.isPrefixOf cs then some (cs.drop word.length) else none

mutual

def readValue : Nat → Reader Value
  | 0, cs => .error ⟨.expectingValue, cs⟩
  | depth + 1, cs =>
    match cs with
    | '"' :: rest => (readString cs cs.length [] rest).map fun r => (.str r.1, r.2)
    | '\x7b' :: rest =>
      match skipSpace rest with
      | '\x7d' :: rest' => .ok (.dict [], rest')
      | rest' => readEntries depth [] rest'
    | '[' :: rest =>
      match skipSpace rest with
      | ']' :: rest' => .ok (.list [], rest')
      | rest' => readItems depth [] rest'
    | _ =>
      -- words come before numbers: one of them begins with a minus
      match afterWord? "null" cs with
      | some rest => .ok (.null, rest)
      | none =>
      match afterWord? "true" cs with
      | some rest => .ok (.bool true, rest)
      | none =>
      match afterWord? "false" cs with
      | some rest => .ok (.bool false, rest)
      | none =>
      match afterWord? "NaN" cs with
      | some rest => .ok (.float (0.0 / 0.0), rest)
      | none =>
      match afterWord? "Infinity" cs with
      | some rest => .ok (.float (1.0 / 0.0), rest)
      | none =>
      match afterWord? "-Infinity" cs with
      | some rest => .ok (.float (-1.0 / 0.0), rest)
      | none =>
      match readNumber? cs with
      | some (.ok v, rest) => .ok (v, rest)
      | some (.error n, _) => .error ⟨.longNumber n, cs⟩
      | none => .error ⟨.expectingValue, cs⟩

/-- The entries of an object from a name on, as far as the closing brace. -/
def readEntries : Nat → List (Value × Value) → Reader Value
  | 0, _, cs => .error ⟨.expectingName, cs⟩
  | depth + 1, acc, cs =>
    match cs with
    | '"' :: rest =>
      match readString cs cs.length [] rest with
      | .error e => .error e
      | .ok (name, rest) =>
        match skipSpace rest with
        | ':' :: rest =>
          match readValue depth (skipSpace rest) with
          | .error e => .error e
          | .ok (value, rest) =>
            let acc := Value.insert acc (.str name) value
            match skipSpace rest with
            | '\x7d' :: rest => .ok (.dict acc, rest)
            | ',' :: rest => readEntries depth acc (skipSpace rest)
            | rest => .error ⟨.expectingComma, rest⟩
        | rest => .error ⟨.expectingColon, rest⟩
    | _ => .error ⟨.expectingName, cs⟩

/-- The items of an array from a value on, as far as the closing bracket; those read before come in
reverse. -/
def readItems : Nat → List Value → Reader Value
  | 0, _, cs => .error ⟨.expectingValue, cs⟩
  | depth + 1, acc, cs =>
    match readValue depth cs with
    | .error e => .error e
    | .ok (value, rest) =>
      match skipSpace rest with
      | ']' :: rest => .ok (.list (value :: acc).reverse, rest)
      | ',' :: rest => readItems depth (value :: acc) (skipSpace rest)
      | rest => .error ⟨.expectingComma, rest⟩

end

/-- Where a part of a text that reaches to its end begins. -/
def locate (whole : List Char) (stop : Stop) : Fault :=
  let offset := whole.length - stop.rest.length
  let before := whole.take offset
  let line := before.count '\n' + 1
  let column := (before.reverse.takeWhile (· != '\n')).length + 1
  ⟨stop.problem, line, column, offset⟩

def read (cs : List Char) : Except Fault Value :=
  if cs.head? = some '\uFEFF' then .error (locate cs ⟨.byteOrderMark, cs⟩)
  else
    match readValue (cs.length + 1) (skipSpace cs) with
    | .error stop => .error (locate cs stop)
    | .ok (value, rest) =>
      match skipSpace rest with
      | [] => .ok value
      | rest => .error (locate cs ⟨.extraData, rest⟩)

end MarkTex.Config.Json
