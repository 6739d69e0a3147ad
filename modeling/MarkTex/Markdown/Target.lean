import MarkTex.Encoding.Percent
import MarkTex.Entity.Reference
import MarkTex.Text.Case
import MarkTex.Text.Punctuation
import MarkTex.Text.Blank

/-!
# Targets of links

A link or an image names its target in place, as a destination and an optional title in parentheses,
or by a label that a reference definition somewhere in the document binds to a target. Every reader of
this module takes the characters from its place on and gives what it read with the characters after.
-/

namespace MarkTex.Markdown

/-- A target: an address, and a title that is not empty. -/
structure Target where
  url : List Char
  title : Option (List Char)
deriving DecidableEq

/-- The definitions of a document: the target of each key, the first definition of a key first. -/
abbrev References := List (List Char × Target)

/-- The text without the backslashes before punctuation. -/
def unescape : List Char → List Char
  | [] => []
  | [c] => [c]
  | c :: d :: rest =>
    if c = '\\' ∧ isAsciiPunctuation d then d :: unescape rest else c :: unescape (d :: rest)

def address (destination : List Char) : List Char :=
  Encoding.percentEncode (Entity.decode .strict (unescape destination))

/-- A target from a destination and a title as they are written. -/
def Target.ofSource (destination : List Char) (title : Option (List Char)) : Target :=
  ⟨address destination, (title.map unescape).filter fun t => !t.isEmpty⟩

/-- The key of a label: labels that differ in letter case and blanks alone are the same. -/
def labelKey (label : List Char) : List Char :=
  upperCase (lowerCase ([' '].intercalate (words label)))

/-- A label of at most `n` characters or escapes, as far as its closing bracket. -/
def label? : Nat → List Char → Option (List Char × List Char)
  | _, ']' :: rest => some ([], rest)
  | 0, _ => none
  | n + 1, '\\' :: c :: rest =>
    if c = '\n' then none else (label? n rest).map fun r => ('\\' :: c :: r.1, r.2)
  | n + 1, c :: rest =>
    if c = '[' ∨ c = '\\' then none else (label? n rest).map fun r => (c :: r.1, r.2)
  | _, [] => none

def labelBound : Nat := 999

def skipSpaces (cs : List Char) : List Char := cs.dropWhile fun c => c == ' ' || c == '\t'

/-- The text after spaces and tabs with at most one line end among them. -/
def skipGap (cs : List Char) : List Char :=
  match skipSpaces cs with
  | '\n' :: rest => skipSpaces rest
  | rest => rest

def nulChar : Char := '\x00'

/-- A destination in angle brackets, after the opening one. -/
def angleDestination? : List Char → Option (List Char × List Char)
  | '>' :: rest => some ([], rest)
  | '\\' :: c :: rest =>
    if c = '\n' then none else (angleDestination? rest).map fun r => ('\\' :: c :: r.1, r.2)
  | c :: rest =>
    if c = '<' ∨ c = '\n' ∨ c = nulChar then none
    else (angleDestination? rest).map fun r => (c :: r.1, r.2)
  | [] => none

/-- How deep the parentheses of a destination may nest. -/
def parenthesisBound : Nat := 20

/-- A destination without brackets, as far as a blank, a control character or the parenthesis that
closes none of its own. `depth` counts the parentheses that are open. -/
def plainDestination? (depth : Nat) : List Char → Option (List Char × List Char)
  | [] => if depth = 0 then some ([], []) else none
  | '\\' :: c :: rest =>
    if isAsciiPunctuation c then
      (plainDestination? depth rest).map fun r => ('\\' :: c :: r.1, r.2)
    else (plainDestination? depth (c :: rest)).map fun r => ('\\' :: r.1, r.2)
  | c :: rest =>
    if c.toNat ≤ 0x20 ∨ c.toNat = 0x7F then
      if depth = 0 then some ([], c :: rest) else none
    else if c = '(' then
      if depth = parenthesisBound then none
      else (plainDestination? (depth + 1) rest).map fun r => (c :: r.1, r.2)
    else if c = ')' then
      match depth with
      | 0 => some ([], c :: rest)
      | d + 1 => (plainDestination? d rest).map fun r => (c :: r.1, r.2)
    else (plainDestination? depth rest).map fun r => (c :: r.1, r.2)

/-- The rest of a title as far as the mark that closes it. In a title between parentheses no other
parenthesis may open. -/
def titleRest? (closing : Char) : List Char → Option (List Char × List Char)
  | [] => none
  | '\\' :: c :: rest =>
    if isAsciiPunctuation c then
      (titleRest? closing rest).map fun r => ('\\' :: c :: r.1, r.2)
    else (titleRest? closing (c :: rest)).map fun r => ('\\' :: r.1, r.2)
  | c :: rest =>
    if c = closing then some ([], rest)
    else if (closing = ')' ∧ c = '(') ∨ c = nulChar then none
    else (titleRest? closing rest).map fun r => (c :: r.1, r.2)

/-- A title after at least one blank. -/
def title? (cs : List Char) : Option (List Char × List Char) :=
  match cs.dropWhile isAsciiBlank with
  | c :: rest =>
    if cs.head? = some c then none
    else if c = '"' ∨ c = '\'' then titleRest? c rest
    else if c = '(' then titleRest? ')' rest
    else none
  | [] => none

/-- The text after the parenthesis that closes a target. -/
def closeTarget? (cs : List Char) : Option (List Char) :=
  match cs.dropWhile isAsciiBlank with
  | ')' :: rest => some rest
  | _ => none

/-- A target in parentheses, after the opening one. -/
def inlineTarget? (cs : List Char) : Option (Target × List Char) := do
  let (destination, rest) ←
    match skipGap cs with
    | '<' :: inner => angleDestination? inner
    | start => plainDestination? 0 start
  match title? rest with
  | some (title, rest') =>
    let after ← closeTarget? rest'
    return (.ofSource destination (some title), after)
  | none =>
    let after ← closeTarget? rest
    return (.ofSource destination none, after)

/-- The text after spaces and tabs and the line end behind them. -/
def endOfLine? (cs : List Char) : Option (List Char) :=
  match skipSpaces cs with
  | '\n' :: rest => some rest
  | _ => none

/-- The text as far as its first blank line. -/
def beforeBlankLine : List Char → List Char
  | [] => []
  | c :: rest =>
    if c = '\n' ∧ startsBlankLine rest then [c] else c :: beforeBlankLine rest
where
  startsBlankLine (cs : List Char) : Bool :=
    (cs.dropWhile fun c => c == ' ' || c == '\t' || c == '\x0b' || c == '\x0c').head? = some '\n'

/-- The target of a reference definition, after the colon: a destination, and a title that ends its
line and stands before the next blank line. -/
def definitionTarget? (cs : List Char) : Option (Target × List Char) := do
  let (destination, rest) ←
    match skipGap cs with
    | '<' :: inner => angleDestination? inner
    | start => (plainDestination? 0 start).filter fun r => !r.1.isEmpty
  let scope := beforeBlankLine rest
  let titled := do
    let (title, after) ← title? scope
    let rest' ← endOfLine? (rest.drop (scope.length - after.length))
    return (Target.ofSource destination (some title), rest')
  titled <|> do
    let rest' ← endOfLine? rest
    return (.ofSource destination none, rest')

/-- The definitions with one more; a key that is there keeps its target. -/
def References.define (refs : References) (key : List Char) (target : Target) : References :=
  if refs.any (·.1 = key) then refs else refs ++ [(key, target)]

def References.find? (refs : References) (label : List Char) : Option Target :=
  (List.find? (·.1 = labelKey label) refs).map (·.2)

end MarkTex.Markdown
