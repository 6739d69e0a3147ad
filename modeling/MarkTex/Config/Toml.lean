import MarkTex.Config.Calendar
import MarkTex.Config.Number

/-!
# Reading TOML

A document is a row of statements: entries, and heads of tables under which the entries after them
stand. What a statement may still add to depends on how a table came about, which marks keep: a table
that has had its head is not declared again, and a value written out in one place stays as it is.

Functions that go on with a part of the document take a bound; the length of the text is always
enough. A part of the text is refused by giving the text that begins with it; a whole number of too
many digits is a failure of its own.
-/

namespace MarkTex.Config.Toml

/-- Why reading stops: the text is refused where the characters given begin, or a number is too
long. -/
inductive Stop where
  | refused (rest : List Char)
  | longNumber (number : LongNumber)

instance : Coe (List Char) Stop := ⟨.refused⟩

/-- A result with the characters that follow it, or why there is none. -/
abbrev Reader (α : Type) := List Char → Except Stop (α × List Char)

/-- A key: one name, or several with points between them. -/
abbrev Key := List Text

def isSpace (c : Char) : Bool := c == ' ' || c == '\t'

def skipSpace (cs : List Char) : List Char := cs.dropWhile isSpace

def skipLines (cs : List Char) : List Char := cs.dropWhile fun c => isSpace c || c == '\n'

def isControl (c : Char) : Bool := c.toNat < 0x20 || c.toNat = 0x7F

def skipComment (cs : List Char) : Except Stop (List Char) :=
  match cs with
  | '#' :: _ =>
    let body := cs.takeWhile (· != '\n')
    if body.any fun c => isControl c && c != '\t' then .error cs else .ok (cs.drop body.length)
  | _ => .ok cs

/-- The text behind blanks, line ends and comments. -/
def skipBlank : Nat → List Char → Except Stop (List Char)
  | 0, cs => .ok cs
  | fuel + 1, cs => do
    let rest ← skipComment (skipLines cs)
    if rest.length < cs.length then skipBlank fuel rest else return rest

/-! ## Strings -/

/-- The character of a number in hexadecimal digits. -/
def codedChar (count : Nat) (cs : List Char) : Except Stop (Char × List Char) :=
  let ds := cs.take count
  if ds.length = count ∧ ds.all fun d => (hexValue? d).isSome then
    let n := digitsInBase 16 ds
    if n.isValidChar then .ok (Char.ofNat n, cs.drop count) else .error cs
  else .error cs

/-- The text behind a backslash that ends a line of a string, with the blanks after it. -/
def skipFold (cs : List Char) : Except Stop (List Char) :=
  match skipSpace cs with
  | [] => .ok []
  | '\n' :: rest => .ok (skipLines rest)
  | _ => .error cs

/-- The characters of an escape, from behind the backslash. -/
def readEscape (multiline : Bool) : Reader (List Char)
  | 'b' :: rest => .ok (['\x08'], rest)
  | 't' :: rest => .ok (['\t'], rest)
  | 'n' :: rest => .ok (['\n'], rest)
  | 'f' :: rest => .ok (['\x0c'], rest)
  | 'r' :: rest => .ok (['\r'], rest)
  | '"' :: rest => .ok (['"'], rest)
  | '\\' :: rest => .ok (['\\'], rest)
  | 'u' :: rest => (codedChar 4 rest).map fun r => ([r.1], r.2)
  | 'U' :: rest => (codedChar 8 rest).map fun r => ([r.1], r.2)
  | c :: rest =>
    if multiline && (isSpace c || c == '\n') then (skipFold (c :: rest)).map fun r => ([], r)
    else .error (c :: rest)
  | [] => .error (Stop.refused [])

/-- The quotes that a string of several lines may have before those that close it: at most two. -/
def extraQuotes (quote : Char) (cs : List Char) : List Char × List Char :=
  let n := min 2 (cs.takeWhile (· == quote)).length
  (List.replicate n quote, cs.drop n)

/-- The rest of a string after the characters read so far, which come in reverse. -/
def readQuoted (quote : Char) (multiline : Bool) : Nat → List Char → Reader Text
  | 0, _, cs => .error cs
  | fuel + 1, acc, cs =>
    match cs with
    | [] => .error (Stop.refused [])
    | c :: rest =>
      if c = quote then
        if !multiline then .ok (Text.ofChars acc.reverse, rest)
        else
          match rest with
          | c₂ :: c₃ :: rest' =>
            if c₂ = quote ∧ c₃ = quote then
              let (extra, rest') := extraQuotes quote rest'
              .ok (Text.ofChars (acc.reverse ++ extra), rest')
            else readQuoted quote multiline fuel (c :: acc) rest
          | _ => readQuoted quote multiline fuel (c :: acc) rest
      else if c = '\\' ∧ quote = '"' then
        match readEscape multiline rest with
        | .ok (chars, rest) => readQuoted quote multiline fuel (chars.reverse ++ acc) rest
        | .error place => .error place
      else if isControl c && c != '\t' && !(multiline && c == '\n') then .error cs
      else readQuoted quote multiline fuel (c :: acc) rest

/-- A string, from its first quote. -/
def readString (quote : Char) (cs : List Char) : Except Stop (Text × List Char) :=
  match cs with
  | _ :: c₂ :: c₃ :: rest =>
    if c₂ = quote ∧ c₃ = quote then
      let rest :=
        match rest with
        | '\n' :: rest => rest
        | _ => rest
      readQuoted quote true (rest.length + 1) [] rest
    else readQuoted quote false cs.length [] cs.tail
  | _ => readQuoted quote false cs.length [] cs.tail

/-! ## Keys -/

/-- Whether a character can stand in a name without quotes. -/
def isBareChar (c : Char) : Bool := c.isAlphanum || c == '-' || c == '_'

def readName : Reader Text
  | [] => .error (Stop.refused [])
  | c :: rest =>
    if isBareChar c then
      let name := (c :: rest).takeWhile isBareChar
      .ok (Text.ofChars name, (c :: rest).drop name.length)
    else if c = '"' ∨ c = '\'' then readQuoted c false (rest.length + 1) [] rest
    else .error (c :: rest)

/-- The further names of a key, and the blanks behind them. -/
def readNames : Nat → Key → Reader Key
  | 0, acc, cs => .ok (acc.reverse, cs)
  | fuel + 1, acc, cs =>
    match skipSpace cs with
    | '.' :: rest => do
      let (name, rest) ← readName (skipSpace rest)
      readNames fuel (name :: acc) rest
    | rest => .ok (acc.reverse, rest)

/-- A key, and the blanks behind it. -/
def readKey (cs : List Char) : Except Stop (Key × List Char) := do
  let (name, rest) ← readName cs
  readNames rest.length [name] rest

/-! ## Numbers and moments -/

/-- A row of digits that may have single underscores between them, with what follows it. -/
def digitRow (isDigit : Char → Bool) : List Char → List Char × List Char
  | c :: '_' :: d :: rest =>
    if isDigit c then
      if isDigit d then let r := digitRow isDigit (d :: rest); (c :: r.1, r.2)
      else ([c], '_' :: d :: rest)
    else ([], c :: '_' :: d :: rest)
  | c :: rest =>
    if isDigit c then let r := digitRow isDigit rest; (c :: r.1, r.2)
    else ([], c :: rest)
  | [] => ([], [])

/-- A whole number in another base than ten, from behind the zero that begins it. -/
def readBased? (cs : List Char) : Option (Int × List Char) :=
  let row (base : Nat) (isDigit : Char → Bool) (rest : List Char) : Option (Int × List Char) :=
    match digitRow isDigit rest with
    | ([], _) => none
    | (ds, rest) => some (Int.ofNat (digitsInBase base ds), rest)
  match cs with
  | 'x' :: rest => row 16 (fun c => (hexValue? c).isSome) rest
  | 'o' :: rest => row 8 (fun c => '0' ≤ c && c ≤ '7') rest
  | 'b' :: rest => row 2 (fun c => c == '0' || c == '1') rest
  | _ => none

def readSign : List Char → Bool × List Char
  | '-' :: rest => (true, rest)
  | '+' :: rest => (false, rest)
  | cs => (false, cs)

def readFraction (cs : List Char) : Option (List Char) × List Char :=
  match cs with
  | '.' :: rest =>
    match digitRow Char.isDigit rest with
    | ([], _) => (none, cs)
    | (ds, rest) => (some ds, rest)
  | _ => (none, cs)

def readExponent (cs : List Char) : Option Int × List Char :=
  match cs with
  | c :: rest =>
    if c = 'e' ∨ c = 'E' then
      let (minus, rest) := readSign rest
      match digitRow Char.isDigit rest with
      | ([], _) => (none, cs)
      | (ds, rest) =>
        let n : Int := digitsToNat ds
        (some (if minus then -n else n), rest)
    else (none, cs)
  | [] => (none, cs)

/-- A number in base ten. -/
def readDecimal? (cs : List Char) : Option (Except LongNumber Value × List Char) :=
  let (minus, body) := readSign cs
  let (whole, rest) :=
    match body with
    | '0' :: rest => (['0'], rest)
    | _ => digitRow Char.isDigit body
  if whole.isEmpty then none
  else
    let (fraction, rest) := readFraction rest
    let (exponent, rest) := readExponent rest
    if fraction.isNone && exponent.isNone then
      some ((wholeNumber minus whole).map .int, rest)
    else some (.ok (.float (decimalFloat minus whole (fraction.getD []) (exponent.getD 0))), rest)

def readNumber? (cs : List Char) : Option (Except LongNumber Value × List Char) :=
  match cs with
  | '0' :: rest =>
    match readBased? rest with
    | some (n, rest) => some (.ok (.int n), rest)
    | none => readDecimal? cs
  | _ => readDecimal? cs

/-- The numbers that are not finite. -/
def readSpecial? (cs : List Char) : Option (Value × List Char) :=
  let (minus, rest) := readSign cs
  let signed (x : Float) : Float := if minus then -x else x
  match rest with
  | 'i' :: 'n' :: 'f' :: rest => some (.float (signed (1.0 / 0.0)), rest)
  | 'n' :: 'a' :: 'n' :: rest => some (.float (0.0 / 0.0), rest)
  | _ => none

def readFixed? (count : Nat) (cs : List Char) : Option (Nat × List Char) :=
  let ds := cs.take count
  if ds.length = count ∧ ds.all Char.isDigit then some (digitsToNat ds, cs.drop count) else none

def after? (c : Char) : List Char → Option (List Char)
  | x :: rest => if x = c then some rest else none
  | [] => none

def readTime? (cs : List Char) : Option (TimeOfDay × List Char) := do
  let (hour, rest) ← readFixed? 2 cs
  let (minute, rest) ← readFixed? 2 (← after? ':' rest)
  let (second, rest) ← readFixed? 2 (← after? ':' rest)
  if 23 < hour ∨ 59 < minute ∨ 59 < second then none
  match rest with
  | '.' :: rest' =>
    let ds := rest'.takeWhile Char.isDigit
    if ds.isEmpty then some (⟨hour, minute, second, 0⟩, rest)
    else some (⟨hour, minute, second, TimeOfDay.microOf ds⟩, rest'.drop ds.length)
  | _ => some (⟨hour, minute, second, 0⟩, rest)

/-- A date. Whether the month has such a day is not looked at. -/
def readDate? (cs : List Char) : Option (Date × List Char) := do
  let (year, rest) ← readFixed? 4 cs
  let (month, rest) ← readFixed? 2 (← after? '-' rest)
  let (day, rest) ← readFixed? 2 (← after? '-' rest)
  if month = 0 ∨ 12 < month ∨ day = 0 ∨ 31 < day then none
  some (⟨year, month, day⟩, rest)

def readOffset? (cs : List Char) : Option (Int × List Char) :=
  match cs with
  | 'Z' :: rest | 'z' :: rest => some (0, rest)
  | c :: rest => do
    if c ≠ '+' ∧ c ≠ '-' then none
    let (hour, rest) ← readFixed? 2 rest
    let (minute, rest) ← readFixed? 2 (← after? ':' rest)
    if 23 < hour ∨ 59 < minute then none
    let n : Int := 60 * hour + minute
    some (if c = '-' then -n else n, rest)
  | [] => none

/-- The time of day behind a date. -/
def readTimePart? (cs : List Char) : Option (TimeOfDay × List Char) :=
  match cs with
  | c :: rest => if c = 'T' ∨ c = 't' ∨ c = ' ' then readTime? rest else none
  | [] => none

/-- A moment that begins with a date; `none` if the text begins with no date. -/
def readMoment? (cs : List Char) : Option (Except CalendarFault Moment × List Char) := do
  let (date, rest) ← readDate? cs
  match readTimePart? rest with
  | none => some (Moment.ofDate date, rest)
  | some (time, rest) =>
    match readOffset? rest with
    | some (offset, rest) => some (Moment.ofDateTime date time (some offset), rest)
    | none => some (Moment.ofDateTime date time none, rest)

/-! ## Tables -/

abbrev Entries := List (Value × Value)

/-- What a statement has made of a key: the head of a table, or a value that stays as it is with all
that is in it. -/
inductive Mark where
  | declared
  | frozen
deriving DecidableEq

abbrev Marks := List (Key × Mark)

def isDeclared (marks : Marks) (key : Key) : Bool := marks.contains (key, .declared)

/-- Whether a key is, or is in, a value that stays as it is. -/
def isFrozen (marks : Marks) (key : Key) : Bool :=
  marks.any fun m => m.2 = .frozen && m.1.isPrefixOf key

def forget (marks : Marks) (key : Key) : Marks := marks.filter fun m => !key.isPrefixOf m.1

/-- The entries with those of the table at a key changed. Tables on the way that are not there are
made; of a list of tables the last is meant, if lists may be entered. -/
def changeAt (lists : Bool) (f : Entries → Option Entries) : Key → Entries → Option Entries
  | [], es => f es
  | k :: rest, es =>
    match Value.find? es (.str k) with
    | none => (changeAt lists f rest []).map fun inner => Value.insert es (.str k) (.dict inner)
    | some (.dict inner) =>
      (changeAt lists f rest inner).map fun inner => Value.insert es (.str k) (.dict inner)
    -- the last table of a list is the one that is still open
    | some (.list vs) =>
      if lists then
        match vs.getLast? with
        | some (.dict inner) => (changeAt lists f rest inner).map fun inner =>
          Value.insert es (.str k) (.list (vs.dropLast ++ [.dict inner]))
        | _ => none
      else none
    | some _ => none

/-- The entries with a new one; a name is not given twice. -/
def addEntry (name : Text) (value : Value) (es : Entries) : Option Entries :=
  if (Value.find? es (.str name)).isSome then none else some (Value.insert es (.str name) value)

/-- The entries with one more table in the list of a name. -/
def addTable (name : Text) (es : Entries) : Option Entries :=
  match Value.find? es (.str name) with
  | none => some (Value.insert es (.str name) (.list [.dict []]))
  | some (.list vs) => some (Value.insert es (.str name) (.list (vs ++ [.dict []])))
  | some _ => none

def addAt (lists : Bool) (key : Key) (value : Value) (es : Entries) : Option Entries :=
  changeAt lists (addEntry (key.getLastD []) value) key.dropLast es

/-- Whether a value is written out with parts of its own. -/
def isCompound : Value → Bool
  | .dict _ => true
  | .list _ => true
  | _ => false

/-! ## Values -/

mutual

def readValue : Nat → Reader Value
  | 0, cs => .error cs
  | fuel + 1, cs =>
    match cs with
    | '"' :: _ => (readString '"' cs).map fun r => (.str r.1, r.2)
    | '\'' :: _ => (readString '\'' cs).map fun r => (.str r.1, r.2)
    | 't' :: 'r' :: 'u' :: 'e' :: rest => .ok (.bool true, rest)
    | 'f' :: 'a' :: 'l' :: 's' :: 'e' :: rest => .ok (.bool false, rest)
    | '[' :: rest => do
      let rest ← skipBlank rest.length rest
      match rest with
      | ']' :: rest => return (.list [], rest)
      | _ => readItems fuel [] rest
    | '\x7b' :: rest =>
      match skipSpace rest with
      | '\x7d' :: rest => .ok (.dict [], rest)
      | rest => readFields fuel [] [] rest
    | _ =>
      -- moments come before numbers, which begin like them
      match readMoment? cs with
      | some (.ok m, rest) => .ok (.moment m, rest)
      | some (.error _, _) => .error cs
      | none =>
      match readTime? cs with
      | some (t, rest) => .ok (.moment (.time t.text), rest)
      | none =>
      match readNumber? cs with
      | some (.ok v, rest) => .ok (v, rest)
      | some (.error n, _) => .error (.longNumber n)
      | none =>
      match readSpecial? cs with
      | some r => .ok r
      | none => .error cs

/-- The rest of a list from an item on, after the items read so far, which come in reverse. -/
def readItems : Nat → List Value → Reader Value
  | 0, _, cs => .error cs
  | fuel + 1, acc, cs => do
    let (v, rest) ← readValue fuel cs
    let acc := v :: acc
    let rest ← skipBlank rest.length rest
    match rest with
    | ']' :: rest => return (.list acc.reverse, rest)
    | ',' :: rest =>
      let rest ← skipBlank rest.length rest
      match rest with
      | ']' :: rest => return (.list acc.reverse, rest)
      | _ => readItems fuel acc rest
    | _ => throw (.refused rest)

/-- The rest of a table in one line from an entry on, after the entries read so far and the marks of
their keys. -/
def readFields : Nat → Marks → Entries → Reader Value
  | 0, _, _, cs => .error cs
  | fuel + 1, marks, es, cs => do
    let (key, value, rest) ← readPair fuel cs
    if isFrozen marks key then throw (.refused cs)
    match addAt false key value es with
    | none => throw (.refused cs)
    | some es =>
      match skipSpace rest with
      | '\x7d' :: rest => return (.dict es, rest)
      | ',' :: rest =>
        let marks := if isCompound value then (key, .frozen) :: marks else marks
        readFields fuel marks es (skipSpace rest)
      | rest => throw (.refused rest)

def readPair : Nat → List Char → Except Stop (Key × Value × List Char)
  | 0, cs => .error cs
  | fuel + 1, cs => do
    let (key, rest) ← readKey cs
    match rest with
    | '=' :: rest =>
      let (value, rest) ← readValue fuel (skipSpace rest)
      return (key, value, rest)
    | _ => throw (.refused rest)

end

/-! ## Documents -/

/-- A document as far as it has been read: its entries, the marks of its keys, those that hold from
the next head on, and the table that entries go to. -/
structure Draft where
  entries : Entries := []
  marks : Marks := []
  pending : Marks := []
  table : Key := []

namespace Draft

/-- The document with an entry in its present table. -/
def addPair (d : Draft) (key : Key) (value : Value) : Option Draft :=
  let onTheWay := (List.range (key.length - 1)).map fun n => d.table ++ key.take (n + 1)
  if onTheWay.any (isDeclared d.marks) || isFrozen d.marks (d.table ++ key.dropLast) then none
  else
    (addAt true (d.table ++ key) value d.entries).map fun es =>
      { d with
        entries := es
        marks := if isCompound value then (d.table ++ key, .frozen) :: d.marks else d.marks
        pending := onTheWay.map (·, Mark.declared) ++ d.pending }

/-- The document with the head of a table. -/
def openTable (d : Draft) (key : Key) : Option Draft :=
  let marks := d.pending ++ d.marks
  if isDeclared marks key || isFrozen marks key then none
  else (changeAt true some key d.entries).map fun es =>
    { entries := es, marks := (key, .declared) :: marks, table := key }

/-- The document with the head of one more table of a list. -/
def openListed (d : Draft) (key : Key) : Option Draft :=
  let marks := d.pending ++ d.marks
  if isFrozen marks key then none
  else (changeAt true (addTable (key.getLastD [])) key.dropLast d.entries).map fun es =>
    { entries := es, marks := (key, .declared) :: forget marks key, table := key }

end Draft

/-- A statement, and what follows it in its line. -/
def readStatement (d : Draft) (cs : List Char) : Except Stop (Draft × List Char) :=
  match cs with
  | '[' :: '[' :: rest => do
    let (key, rest) ← readKey (skipSpace rest)
    match d.openListed key, rest with
    | some d, ']' :: ']' :: rest => return (d, rest)
    | _, _ => throw (.refused cs)
  | '[' :: rest => do
    let (key, rest) ← readKey (skipSpace rest)
    match d.openTable key, rest with
    | some d, ']' :: rest => return (d, rest)
    | _, _ => throw (.refused cs)
  | '#' :: _ => .ok (d, cs)
  | _ => do
    let (key, value, rest) ← readPair (cs.length + 1) cs
    match d.addPair key value with
    | some d => return (d, rest)
    | none => throw (.refused cs)

def readStatements : Nat → Draft → List Char → Except Stop Draft
  | 0, _, cs => .error cs
  | fuel + 1, d, cs =>
    match skipSpace cs with
    | [] => .ok d
    | '\n' :: rest => readStatements fuel d rest
    | cs => do
      let (d, rest) ← readStatement d cs
      let rest ← skipComment (skipSpace rest)
      match rest with
      | [] => return d
      | '\n' :: rest => readStatements fuel d rest
      | _ => throw (.refused rest)

def unifyLines : List Char → List Char
  | [] => []
  | '\r' :: '\n' :: rest => '\n' :: unifyLines rest
  | c :: rest => c :: unifyLines rest

/-- Why a text cannot be read: it is refused at a line and a column, counted from one, or has a number
that is too long. -/
inductive Fault where
  | malformed (line column : Nat)
  | longNumber (number : LongNumber)
deriving DecidableEq

def Fault.message : Fault → String
  | malformed line column =>
    "unexpected text at line " ++ toString line ++ ", column " ++ toString column
  | longNumber number => Integer.excessMessage number.count

def read (cs : List Char) : Except Fault Entries :=
  let cs := unifyLines cs
  match readStatements (cs.length + 1) {} cs with
  | .ok d => .ok d.entries
  | .error (.refused rest) =>
    let before := cs.take (cs.length - rest.length)
    .error (.malformed (before.count '\n' + 1) ((before.reverse.takeWhile (· != '\n')).length + 1))
  | .error (.longNumber n) => .error (.longNumber n)

end MarkTex.Config.Toml
