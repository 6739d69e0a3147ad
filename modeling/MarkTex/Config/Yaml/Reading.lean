import MarkTex.Config.Calendar
import MarkTex.Config.Number

/-!
# Reading YAML characters

A place in a document counts lines and columns, because indentation decides what belongs together. Three
more characters than elsewhere end a line, and a mark of the byte order takes no column.
-/

namespace MarkTex.Config.Yaml

/-- Why a scalar of a known type has no value. -/
inductive ValueFault where
  | calendar (fault : CalendarFault)
  | notInteger (base : Nat) (text : Text)
  | notFloat (text : Text)
  | noDigits
  | notTruth (text : Text)
  | notMoment
  | beyondUnicode
  | beyondWord
  | longNumber (number : LongNumber)
deriving DecidableEq

def ValueFault.message : ValueFault → String
  | calendar fault => fault.message
  | notInteger base t => Integer.refusal base t
  | notFloat t => "could not convert string to float: " ++ quoted t
  | noDigits => "string index out of range"
  | notTruth t => quoted t
  | notMoment => "'NoneType' object has no attribute 'groupdict'"
  | beyondUnicode => "chr() arg not in range(0x110000)"
  | beyondWord => "Python int too large to convert to C int"
  | longNumber number => Integer.excessMessage number.count

inductive Fault where
  /-- The text is refused at a line and a column, counted from one. -/
  | malformed (line column : Nat)
  | value (fault : ValueFault)
deriving DecidableEq

def Fault.message : Fault → String
  | malformed line column =>
    "unexpected text at line " ++ toString line ++ ", column " ++ toString column
  | value fault => fault.message

structure Place where
  rest : List Char
  index : Nat := 0
  line : Nat := 0
  column : Nat := 0

def isBreak (c : Char) : Bool :=
  c == '\n' || c == '\r' || c == '\x85' || c == '\u2028' || c == '\u2029'

/-- Whether a line ends before this character, or the document does. -/
def endsLine : Option Char → Bool
  | none => true
  | some c => isBreak c

/-- Whether a line ends here or a space stands here. -/
def endsItem : Option Char → Bool
  | none => true
  | some c => isBreak c || c == ' '

/-- Whether a line ends here or a blank stands here. -/
def endsWord : Option Char → Bool
  | none => true
  | some c => isBreak c || c == ' ' || c == '\t'

namespace Place

def next (p : Place) : Place :=
  match p.rest with
  | [] => p
  | c :: rest =>
    if isBreak c && !(c == '\r' && rest.head? == some '\n') then ⟨rest, p.index + 1, p.line + 1, 0⟩
    else ⟨rest, p.index + 1, p.line, if c = '\uFEFF' then p.column else p.column + 1⟩

def forward : Nat → Place → Place
  | 0, p => p
  | n + 1, p => forward n p.next

def peek (p : Place) (n : Nat) : Option Char := (p.rest.drop n).head?

/-- The refusal of a place. -/
def fault (p : Place) : Fault := .malformed (p.line + 1) (p.column + 1)

/-- Whether three characters, with nothing but a blank or the end of a line behind them, stand here. -/
def atMark (p : Place) (c : Char) : Bool :=
  p.rest.take 3 == [c, c, c] && endsWord (p.peek 3)

def atDocumentMark (p : Place) : Bool := p.atMark '-' || p.atMark '.'

end Place

/-- Reading on from a place. -/
abbrev Reader := StateT Place (Except Fault)

namespace Reader

def refuse : Reader α := do throw (← get).fault

def peek : Reader (Option Char) := return (← get).rest.head?

def forward (n : Nat) : Reader Unit := modify (Place.forward n)

def takeWhile (p : Char → Bool) : Reader (List Char) := do
  let taken := (← get).rest.takeWhile p
  forward taken.length
  return taken

def skipWhile (p : Char → Bool) : Reader Unit := do
  let _ ← takeWhile p

def skipSpaces : Reader Unit := skipWhile (· == ' ')

/-- Passes a comment, if one begins here. -/
def skipComment : Reader Unit := do
  if (← peek) = some '#' then skipWhile (!isBreak ·)

/-- Goes on only if the next character is as wanted. -/
def expect (p : Option Char → Bool) : Reader Unit := do
  if !p (← peek) then refuse

/-- Passes the end of a line, and gives what it stands for: nothing if no line ends here. -/
def readBreak : Reader (List Char) := do
  match (← get).rest with
  | '\r' :: '\n' :: _ => forward 2; return ['\n']
  | c :: _ =>
    if c = '\u2028' ∨ c = '\u2029' then forward 1; return [c]
    else if isBreak c then forward 1; return ['\n']
    else return []
  | [] => return []

/-- Passes the rest of a line that may hold nothing but a comment. -/
def skipRestOfLine : Reader Unit := do
  skipSpaces
  skipComment
  expect endsLine
  let _ ← readBreak

end Reader

end MarkTex.Config.Yaml
