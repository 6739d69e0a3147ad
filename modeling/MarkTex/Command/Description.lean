import MarkTex.Command.Argument
import MarkTex.Text.Quoted

/-!
# Describing a command

The usage of a command shows its arguments in a row, those with flags first. Its help goes on with what
the command does and with a paragraph for each argument, under headings. Lines are broken at blanks and
behind hyphens within words, so that they fit a width.
-/

namespace MarkTex.Command

/-- What a description is made of. -/
structure Grammar where
  program : String
  summary : String
  arguments : List Argument
  epilogue : String

/-! ## Breaking lines -/

/-- Whether a hyphen behind some characters, the last first, and before others is a place to break a
word: letters stand on both sides of it. -/
def breaksAt (before after : List Char) : Bool :=
  (match before with
    | b :: a :: _ => b.isAlpha && a.isAlpha
    | _ => false) &&
  (match after with
    | c :: '-' :: d :: _ => c.isAlpha && d.isAlpha
    | c :: d :: _ => c.isAlpha && d.isAlpha
    | _ => false)

def hyphenated (before : List Char) : List Char → List (List Char)
  | [] => [before.reverse]
  | '-' :: rest =>
    if breaksAt before rest then ('-' :: before).reverse :: hyphenated [] rest
    else hyphenated ('-' :: before) rest
  | c :: rest => hyphenated (c :: before) rest

/-- The pieces of a text that stay on one line, spaces among them. -/
def piecesOf (words : List String) : List (List Char) :=
  (words.map fun w => hyphenated [] w.toList).intersperse [[' ']] |>.flatten

/-- The head of a piece that is too long for a line, cut behind a hyphen if it has one, and the rest. -/
def cutPiece (room : Nat) (piece : List Char) : List Char × List Char :=
  let head := piece.take room
  let behindHyphen := (head.reverse.dropWhile (· != '-')).reverse
  let cut :=
    if (behindHyphen.dropLast.any (· != '-')) && room < piece.length then behindHyphen.length else room
  (piece.take cut, piece.drop cut)

/-- A line without a space at its end. -/
def closeLine (line : List Char) : List (List Char) :=
  let line := if line.getLast? = some ' ' then line.dropLast else line
  if line.isEmpty then [] else [line]

/-- The lines of pieces; `line` is the line begun. A line that ends within a piece too long for it is full,
and keeps a space at its end. -/
def wrapPieces (width : Nat) : Nat → List Char → List (List Char) → List (List Char)
  | 0, line, _ => closeLine line
  | _, line, [] => closeLine line
  | fuel + 1, line, piece :: rest =>
    if line.isEmpty && piece == [' '] then wrapPieces width fuel line rest
    else if line.length + piece.length ≤ width then wrapPieces width fuel (line ++ piece) rest
    else if width < piece.length then
      let (head, tail) := cutPiece (width - line.length) piece
      (line ++ head) :: wrapPieces width fuel [] (tail :: rest)
    else closeLine line ++ wrapPieces width fuel [] (piece :: rest)

def wrapped (width : Nat) (text : String) : List String :=
  let ps := piecesOf (text.splitOn " ")
  (wrapPieces width (2 * text.length + 2) [] ps).map String.ofList

/-! ## Usage -/

def Argument.wordName (a : Argument) : String :=
  match a.placeholder, a.choices with
  | some p, _ => p
  | none, some vs => "\x7b" ++ ",".intercalate (vs.map fun v => v.display.toString) ++ "\x7d"
  | none, none => if a.flags.isEmpty then a.dest else String.ofList (upperCase a.dest.toList)

def Argument.words (a : Argument) : String :=
  match a.arity with
  | .none => ""
  | .one => a.wordName
  | .optional => "[" ++ a.wordName ++ "]"

def Argument.usage (a : Argument) : String :=
  match a.flags with
  | [] => a.words
  | flag :: _ =>
    let body := if a.arity = .none then flag else flag ++ " " ++ a.words
    if a.required then body else "[" ++ body ++ "]"

/-- The rows of parts within a width, each indented; `line` is the row begun and `length` what it takes
of the width. -/
def usageRows (width indent : Nat) : List String → Nat → List String → List (List String)
  | line, _, [] => if line.isEmpty then [] else [line]
  | line, length, part :: rest =>
    if width < length + 1 + part.length ∧ !line.isEmpty then
      line :: usageRows width indent [part] (indent + part.length) rest
    else usageRows width indent (line ++ [part]) (length + part.length + 1) rest

def spaces (n : Nat) : String := String.ofList (List.replicate n ' ')

def usage (g : Grammar) (width : Nat) : String :=
  let head := "usage: "
  let flagged := (g.arguments.filter fun a => !a.flags.isEmpty).map Argument.usage
  let placed := (g.arguments.filter fun a => a.flags.isEmpty).map Argument.usage
  let line := head ++ " ".intercalate (g.program :: flagged ++ placed)
  if line.length ≤ width then line ++ "\n"
  else
    let short := 4 * (head.length + g.program.length) ≤ 3 * width
    let indent := if short then head.length + g.program.length + 1 else head.length
    let rowsOf (parts : List String) : List String :=
      (usageRows width indent [] (indent - 1) parts).map fun r => spaces indent ++ " ".intercalate r
    let rows :=
      if !short then
        let all := rowsOf (flagged ++ placed)
        let all := if 1 < all.length then rowsOf flagged ++ rowsOf placed else all
        g.program :: all
      else
        let first := if flagged.isEmpty then placed else flagged
        let opening := (usageRows width indent [] (head.length - 1) (g.program :: first)).map
          (" ".intercalate ·)
        let opening :=
          match opening with
          | [] => []
          | r :: rs => r :: rs.map (spaces indent ++ ·)
        if flagged.isEmpty then opening else opening ++ rowsOf placed
    head ++ "\n".intercalate rows ++ "\n"

/-! ## Help -/

/-- The ways to give an argument. -/
def Argument.invocation (a : Argument) : String :=
  if a.flags.isEmpty then a.wordName
  else ", ".intercalate (a.flags.map fun f => if a.arity = .none then f else f ++ " " ++ a.words)

def helpColumn (width : Nat) (arguments : List Argument) : Nat :=
  let longest := (arguments.map fun a => a.invocation.length + 2).foldl max 0
  min (longest + 2) (min 24 (max (width - 20) 4))

def Argument.paragraph (a : Argument) (width column : Nat) : String :=
  let room := column - 4
  let invocation := a.invocation
  let lines := wrapped (max (width - column) 11) a.help
  match lines with
  | [] => "  " ++ invocation ++ "\n"
  | first :: rest =>
    let opening :=
      if invocation.length ≤ room then
        "  " ++ invocation ++ spaces (room - invocation.length) ++ "  " ++ first ++ "\n"
      else "  " ++ invocation ++ "\n" ++ spaces column ++ first ++ "\n"
    opening ++ String.join (rest.map fun l => spaces column ++ l ++ "\n")

def Argument.heading (a : Argument) : String :=
  a.group.getD (if a.flags.isEmpty then "positional arguments" else "options")

def headings (arguments : List Argument) : List String :=
  (["positional arguments", "options"] ++ arguments.filterMap (·.group)).eraseDups

def help (g : Grammar) (width : Nat) : String :=
  let column := helpColumn width g.arguments
  let parts := (headings g.arguments).filterMap fun h =>
    match g.arguments.filter fun a => a.heading = h with
    | [] => none
    | members => some (h ++ ":\n" ++ String.join (members.map (·.paragraph width column)) ++ "\n")
  usage g width ++ "\n" ++ g.summary ++ "\n\n" ++ String.join parts ++ g.epilogue

end MarkTex.Command
