import MarkTex.Markdown.Block
import MarkTex.Text.Lines

/-!
# Where blocks begin

Every block begins at the head of a line. A rule looks at the text from there on and gives what it
found with the place behind it; for most kinds of blocks that is the first line without its end.
-/

namespace MarkTex.Markdown

/-- The elements whose tags open or close a block of raw HTML. -/
def blockElements : List String :=
  ["address", "article", "aside", "base", "basefont", "blockquote", "body", "caption", "center",
   "col", "colgroup", "dd", "details", "dialog", "dir", "div", "dl", "dt", "fieldset", "figcaption",
   "figure", "footer", "form", "frame", "frameset", "h1", "h2", "h3", "h4", "h5", "h6", "head",
   "header", "hr", "html", "iframe", "legend", "li", "link", "main", "menu", "menuitem", "meta",
   "nav", "noframes", "ol", "optgroup", "option", "p", "param", "section", "source", "summary",
   "table", "tbody", "td", "tfoot", "th", "thead", "title", "tr", "track", "ul"]

/-- The elements whose content is raw as far as their end tag. -/
def rawElements : List String := ["pre", "script", "style", "textarea"]

/-- The rules, by the kind of block that they find. -/
inductive Rule where
  | fence
  | indented
  | heading
  | underline
  | thematicBreak
  | math
  | quote
  | list
  | definition
  | html
  /-- Raw HTML that may end a paragraph. -/
  | blockHtml
  | blank
  | table
  | looseTable
deriving DecidableEq

/-- The mark of a list item: a bullet, or a number with the mark after it. -/
inductive ItemMark where
  | bullet (mark : Char)
  | number (digits : List Char) (mark : Char)
deriving DecidableEq

namespace ItemMark

/-- How many characters a mark has. -/
def width : ItemMark → Nat
  | bullet _ => 1
  | number digits _ => digits.length + 1

/-- The character that the marks of a list have in common. -/
def last : ItemMark → Char
  | bullet mark => mark
  | number _ mark => mark

def number? : ItemMark → Option Nat
  | bullet _ => none
  | number digits _ => some (digits.foldl (fun n d => 10 * n + (decimalValue? d).getD 0) 0)

end ItemMark

/-- The first line of a list item: the spaces before the mark, the mark, and the text after it. -/
structure ItemHead where
  indent : Nat
  mark : ItemMark
  text : List Char

/-- What begins at the head of a line. -/
inductive BlockStart where
  | fence (indent : Nat) (mark : Char) (length : Nat) (info : List Char)
  | indented
  | heading (level : Nat) (text : List Char)
  | underline (level : Nat)
  | thematicBreak
  | math (body : List Char)
  | quote (text : List Char)
  | item (head : ItemHead)
  | definition (label : List Char)
  | html (opening : List Char)
  | blank
  /-- The head of a table, its line of alignments and its rows, all without bars around them. -/
  | table (head align : List Char) (rows : List (List Char))

namespace BlockStart

def isSpaceTab (c : Char) : Bool := c == ' ' || c == '\t'

/-- At most `n` spaces at the head of a line. -/
def indentUpTo (n : Nat) : Matcher (List Char) := do
  Matcher.lineStart
  Matcher.many (· == ' ') 0 n

def restOfLine : Matcher (List Char) := Matcher.runOf (· != '\n')

/-- Spaces and tabs as far as the end of the line. -/
def blankToEnd : Matcher Unit := do
  let _ ← Matcher.runOf isSpaceTab
  Matcher.lineEnd

/-- At least three of a character. -/
def threeOrMore (mark : Char) : Matcher (List Char) := fun c =>
  Matcher.many (· == mark) 3 c.rest.length c

/-- The opening fence of a code block. -/
def fenceRule (indent : Nat) : Matcher BlockStart := do
  let spaces ← indentUpTo indent
  let marks ← threeOrMore '`' <|> threeOrMore '~'
  let _ ← Matcher.runOf isSpaceTab
  let info ← restOfLine
  return .fence spaces.length (marks.headD '`') marks.length info

def codeLine : Matcher Unit := do
  Matcher.word "    " <|> (do
    let _ ← Matcher.runOf (· == ' ')
    Matcher.exactly '\t')
  let line ← restOfLine
  if line.isEmpty then Matcher.fail
  let _ ← Matcher.runOf (· == '\n')

def emptyLine : Matcher Unit := do
  let _ ← Matcher.runOf fun c => isBlank c && c != '\n'
  Matcher.exactly '\n' <|> Matcher.guardAt fun c => c.rest.isEmpty

/-- A block of indented code with the blank lines after it. -/
def indentedRule : Matcher BlockStart := do
  Matcher.lineStart
  codeLine
  let _ ← Matcher.repeat0 (codeLine <|> emptyLine)
  return .indented

/-- Text that is empty or begins with a space or a tab, as far as the end of the line. -/
def spacedText : Matcher (List Char) := do
  let text ← restOfLine
  if text.head?.all isSpaceTab then return text else Matcher.fail

def headingRule (indent : Nat) : Matcher BlockStart := do
  let _ ← indentUpTo indent
  let marks ← Matcher.runOf (· == '#')
  let text ← spacedText
  if 1 ≤ marks.length ∧ marks.length ≤ 6 then return .heading marks.length text else Matcher.fail

/-- A line that makes the paragraph before it a heading. -/
def underlineRule : Matcher BlockStart := do
  let _ ← indentUpTo 3
  let marks ← Matcher.many1 fun c => c == '=' || c == '-'
  blankToEnd
  return .underline (if marks.getLast? = some '=' then 1 else 2)

/-- Three or more of one mark, with spaces and tabs between them. -/
def thematicBreakRule (indent : Nat) : Matcher BlockStart := do
  let _ ← indentUpTo indent
  let row (mark : Char) : Matcher Unit := do
    let _ ← Matcher.repeatAtLeast (do Matcher.exactly mark; Matcher.runOf isSpaceTab) 3
    Matcher.lineEnd
  row '-' <|> row '_' <|> row '*'
  return .thematicBreak

/-- Math between lines of two dollars, or on one line between two dollars at each end. -/
def mathRule : Matcher BlockStart := do
  let _ ← indentUpTo 3
  Matcher.word "$$"
  let lines : Matcher (List Char) := do
    let _ ← Matcher.runOf isSpaceTab
    Matcher.exactly '\n'
    let body ← Matcher.through (fun _ => true) "\n$$".toList
    blankToEnd
    return body
  let line : Matcher (List Char) := do
    let body ← Matcher.through (· != '\n') "$$".toList
    blankToEnd
    return body
  let body ← lines <|> line
  return .math body

def quoteRule (indent : Nat) : Matcher BlockStart := do
  let _ ← indentUpTo indent
  Matcher.exactly '>'
  let text ← restOfLine
  return .quote text

def itemMark : Matcher ItemMark :=
  (do
    let mark ← Matcher.char fun c => c == '*' || c == '+' || c == '-'
    return .bullet mark) <|>
  (do
    let digits ← Matcher.many isDecimalDigit 1 9
    let mark ← Matcher.char fun c => c == '.' || c == ')'
    return .number digits mark)

def listRule (indent : Nat) : Matcher BlockStart := do
  let spaces ← indentUpTo indent
  let mark ← itemMark
  let text ← spacedText
  return .item ⟨spaces.length, mark, text⟩

/-- The first line of a further item of a list whose marks end with a character. -/
def nextItem (indent : Nat) (last : Char) : Matcher ItemHead := do
  let spaces ← indentUpTo indent
  let numbered := last == '.' || last == ')'
  let digits ← if numbered then Matcher.many isDecimalDigit 1 9 else pure []
  Matcher.exactly last
  let text ← spacedText
  return ⟨spaces.length, if numbered then .number digits last else .bullet last, text⟩

/-- The label and the colon of a reference definition. -/
def definitionRule : Matcher BlockStart := do
  let _ ← indentUpTo 3
  Matcher.exactly '['
  let label ← bracketed
  Matcher.exactly ':'
  return .definition label
where
  bracketed : Matcher (List Char) := fun c =>
    match label? labelBound c.rest with
    | some (label, rest) =>
      .some label (c.advance (c.rest.length - rest.length)) fun _ => .none
    | none => .none

/-- The beginning of a comment, an instruction, a declaration or a section of character data. -/
def asideOpening : Matcher Unit :=
  Matcher.word "<!--" <|> Matcher.word "<?" <|>
  (do
    Matcher.word "<!"
    let _ ← Matcher.char fun c => 'A' ≤ c && c ≤ 'Z') <|>
  Matcher.word "<![CDATA["

/-- The beginning of any raw HTML. -/
def htmlRule : Matcher BlockStart := do
  let _ ← indentUpTo 3
  let opening ← Matcher.textOf ((do
    Matcher.exactly '<'
    let _ ← Matcher.optional (Matcher.exactly '/')
    InlineMarkup.tagName) <|> asideOpening)
  return .html opening

/-- The beginning of raw HTML that may end a paragraph. A tag must have a blank or the end of the line
behind its name. -/
def blockHtmlRule (indent : Nat) : Matcher BlockStart := do
  let _ ← indentUpTo indent
  let opening ← Matcher.textOf ((do
    Matcher.exactly '<'
    let _ ← Matcher.optional (Matcher.exactly '/')
    blockTag
    (do let _ ← Matcher.many1 isSpaceTab) <|> Matcher.exactly '\n' <|> Matcher.lineEnd) <|>
    asideOpening)
  return .html (trimBlank opening)
where
  blockTag : Matcher Unit :=
    (blockElements ++ rawElements).foldr (fun name m => Matcher.word name <|> m) Matcher.fail

def blankRule : Matcher BlockStart := do
  Matcher.lineStart
  let _ ← Matcher.repeatAtLeast (do
    let _ ← Matcher.runOf fun c => c == ' ' || c == '\t' || c == '\x0b' || c == '\x0c'
    Matcher.exactly '\n') 1
  return .blank

/-- What stands between the first and the last bar of a line. -/
def betweenBars? (line : List Char) : Option (List Char) :=
  match dropSpaces 3 line with
  | '|' :: rest =>
    match rest.reverse.dropWhile isSpaceTab with
    | '|' :: inner => some inner.reverse
    | _ => none
  | _ => none

/-- A line between bars, with what stands between the first and the last of them. -/
def barredLine : Matcher (List Char) := do
  let line ← restOfLine
  match betweenBars? line with
  | some inner =>
    Matcher.exactly '\n'
    return inner
  | none => Matcher.fail

def isAlignChar (c : Char) : Bool := c == '-' || c == ':' || c == '|' || c == ' '

/-- What stands behind the first bar of a line of alignments and before the last, if there is one. -/
def alignBetweenBars? (line : List Char) : Option (List Char) :=
  match line.dropWhile (· == ' ') with
  | '|' :: rest =>
    let inner :=
      match rest.reverse.dropWhile isSpaceTab with
      | '|' :: before => before.reverse
      | before => before.reverse
    if inner.all isAlignChar then some inner else none
  | _ => none

def wholeLine : Matcher (List Char) := do
  let line ← restOfLine
  Matcher.exactly '\n'
  return line

/-- A table whose lines all begin and end with a bar; the last bar of the line of alignments may be
missing. -/
def tableRule : Matcher BlockStart := do
  Matcher.lineStart
  let head ← barredLine
  let line ← wholeLine
  match alignBetweenBars? line with
  | none => Matcher.fail
  | some align =>
    let rows ← Matcher.repeat0 barredLine
    return .table head align rows

/-- A table whose lines hold bars but do not begin with one. -/
def looseTableRule : Matcher BlockStart := do
  let _ ← indentUpTo 3
  Matcher.aheadNot isBlank
  let head ← wholeLine
  let align ← wholeLine
  if !(head.tail.contains '|') || !(align.contains '|') || !(align.all isAlignChar) then Matcher.fail
  let rows ← Matcher.repeat0 do
    let line ← restOfLine
    if !(line.contains '|') then Matcher.fail
    let _ ← Matcher.optional (Matcher.exactly '\n')
    return line
  return .table head align rows

/-- The matcher of a rule, for lines indented by at most a number of spaces. -/
def matcher (indent : Nat) : Rule → Matcher BlockStart
  | .fence => fenceRule indent
  | .indented => indentedRule
  | .heading => headingRule indent
  | .underline => underlineRule
  | .thematicBreak => thematicBreakRule indent
  | .math => mathRule
  | .quote => quoteRule indent
  | .list => listRule indent
  | .definition => definitionRule
  | .html => htmlRule
  | .blockHtml => blockHtmlRule indent
  | .blank => blankRule
  | .table => tableRule
  | .looseTable => looseTableRule

/-- What the first rule that finds something at a place finds there, with the place behind it. -/
def at? (indent : Nat) (rules : List Rule) (c : Cursor) : Option (BlockStart × Cursor) :=
  rules.findSome? fun rule => (matcher indent rule).run? c

/-- The first line at or after a place where a rule finds something: the text before that line, the
place where it begins, what is found, and the place behind that. -/
def next? (rules : List Rule) (c : Cursor) :
    Option (List Char × Cursor × BlockStart × Cursor) :=
  go c.before [] c.rest
where
  go (before : Option Char) (skipped : List Char) :
      List Char → Option (List Char × Cursor × BlockStart × Cursor)
    | [] => none
    | x :: rest =>
      let here : Cursor := ⟨before, x :: rest⟩
      match if here.atLineStart then at? 3 rules here else none with
      | some (start, after) => some (skipped.reverse, here, start, after)
      | none => go (some x) (x :: skipped) rest

end BlockStart

end MarkTex.Markdown
