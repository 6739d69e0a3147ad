import MarkTex.Config.Number
import MarkTex.Config.Yaml.Reading
import MarkTex.Encoding.Utf8

/-!
# Scalars and names of YAML

How the text of a scalar is written: plainly, between quotes, or in a block of lines; and the names of
anchors, tags and directives. Lines of a plain or quoted scalar are folded: a single line end is a
space, and of more the first is dropped.

Functions that go on take a bound; the length of the text is always enough.
-/

namespace MarkTex.Config.Yaml

/-- Folded line ends: the first, and those after it. -/
def folded (first : List Char) (more : List Char) : List Char :=
  if first ≠ ['\n'] then first ++ more
  else if more.isEmpty then [' ']
  else more

/-! ## Names -/

def isNameChar (c : Char) : Bool := c.isAlphanum || c == '-' || c == '_'

def readAnchorName : Reader String := do
  let name ← Reader.takeWhile isNameChar
  if name.isEmpty then Reader.refuse
  Reader.expect fun c => endsWord c || c.any fun c => "?:,]\x7d%@\x60".toList.contains c
  return String.ofList name

def readTagHandle : Reader String := do
  match (← get).rest with
  | '!' :: ' ' :: _ => Reader.forward 1; return "!"
  | '!' :: rest =>
    let name := rest.takeWhile isNameChar
    match rest.drop name.length with
    | '!' :: _ =>
      Reader.forward (name.length + 2)
      return String.ofList ('!' :: name ++ ['!'])
    | _ => Reader.refuse
  | _ => Reader.refuse

def isAddressChar (c : Char) : Bool :=
  c.isAlphanum || "-;/?:@&=+$,_.!~*'()[]%".toList.contains c

/-- The bytes of a row of percent escapes, and how many characters they take. -/
def escapedBytes : List Char → Option (List UInt8 × Nat)
  | '%' :: a :: b :: rest => do
    let high ← hexValue? a
    let low ← hexValue? b
    let (bytes, n) ← escapedBytes rest
    some (UInt8.ofNat (16 * high + low) :: bytes, n + 3)
  | '%' :: _ => none
  | _ => some ([], 0)

def readTagAddress : Nat → List Char → Reader String
  | 0, _ => Reader.refuse
  | fuel + 1, acc => do
    match (← get).rest with
    | '%' :: rest =>
      match escapedBytes ('%' :: rest) with
      | none => Reader.refuse
      | some (bytes, n) =>
        match Encoding.utf8Decode bytes with
        | .error _ => Reader.refuse
        | .ok cs =>
          Reader.forward n
          readTagAddress fuel (acc ++ cs)
    | c :: _ =>
      if isAddressChar c then
        let cs ← Reader.takeWhile fun c => isAddressChar c && c != '%'
        readTagAddress fuel (acc ++ cs)
      else if acc.isEmpty then Reader.refuse
      else return String.ofList acc
    | [] => if acc.isEmpty then Reader.refuse else return String.ofList acc

def readAddress : Reader String := do readTagAddress ((← get).rest.length + 1) []

/-- A tag: the handle, unless the address is given in full, and the rest. -/
def readTag : Reader (Option String × String) := do
  let p ← get
  let tag ←
    match p.peek 1 with
    | some '<' => do
      Reader.forward 2
      let address ← readAddress
      Reader.expect (· == some '>')
      Reader.forward 1
      pure (none, address)
    | c =>
      if endsWord c then do
        Reader.forward 1
        pure (none, "!")
      else if (p.rest.tail.takeWhile fun c => !endsItem (some c)).contains '!' then do
        let handle ← readTagHandle
        pure (some handle, ← readAddress)
      else do
        Reader.forward 1
        pure (some "!", ← readAddress)
  Reader.expect endsItem
  return tag

/-- A line that begins with a percent sign. -/
inductive Directive where
  | version (major : Nat)
  | handle (name address : String)
  | other

def readVersionPart : Reader Nat := do
  let ds ← Reader.takeWhile Char.isDigit
  if ds.isEmpty then Reader.refuse
  match wholeNumber false ds with
  | .ok n => return n.toNat
  | .error n => throw (.value (.longNumber n))

def readDirective : Reader Directive := do
  Reader.forward 1
  let name ← Reader.takeWhile isNameChar
  if name.isEmpty then Reader.refuse
  Reader.expect endsItem
  let d ←
    if name = "YAML".toList then do
      Reader.skipSpaces
      let major ← readVersionPart
      Reader.expect (· == some '.')
      Reader.forward 1
      let _ ← readVersionPart
      Reader.expect endsItem
      pure (.version major)
    else if name = "TAG".toList then do
      Reader.skipSpaces
      let handle ← readTagHandle
      Reader.expect (· == some ' ')
      Reader.skipSpaces
      let address ← readAddress
      Reader.expect endsItem
      pure (.handle handle address)
    else do
      Reader.skipWhile (!isBreak ·)
      pure .other
  Reader.skipRestOfLine
  return d

/-! ## Plain scalars -/

/-- The characters of a plain scalar up to a blank, a line end, or what else ends it. -/
def plainRun (flow : Bool) : List Char → List Char
  | [] => []
  | c :: rest =>
    let ends :=
      endsWord (some c) ||
        (c == ':' && (endsWord rest.head? || (flow && rest.head?.any ",[]\x7b\x7d".toList.contains))) ||
        (flow && ",?[]\x7b\x7d".toList.contains c)
    if ends then [] else c :: plainRun flow rest

/-- The further line ends within a scalar, with the spaces between them; `none` where a document
ends. -/
def readPlainBreaks : Nat → List Char → Reader (Option (List Char))
  | 0, acc => return some acc
  | fuel + 1, acc => do
    match (← get).rest with
    | ' ' :: _ => Reader.skipSpaces; readPlainBreaks fuel acc
    | c :: _ =>
      if isBreak c then
        let b ← Reader.readBreak
        if (← get).atDocumentMark then return none
        readPlainBreaks fuel (acc ++ b)
      else return some acc
    | [] => return some acc

/-- The blanks behind a part of a plain scalar, and whether they hold a line end; no blanks where the
scalar ends. -/
def readPlainSpaces : Reader (List Char × Bool) := do
  let spaces ← Reader.takeWhile (· == ' ')
  if (← Reader.peek).any isBreak then
    let first ← Reader.readBreak
    if (← get).atDocumentMark then return ([], true)
    match ← readPlainBreaks ((← get).rest.length + 1) [] with
    | none => return ([], true)
    | some more => return (folded first more, true)
  else return (spaces, false)

/-- A plain scalar whose further lines begin at a column or behind it, and whether a line ended behind
it. The arguments before are a bound, what was read, the blanks behind it, and that answer for
them. -/
def readPlain (flow : Bool) (margin : Nat) : Nat → List Char → List Char → Bool →
    Reader (List Char × Bool)
  | 0, acc, _, crossed => return (acc, crossed)
  | fuel + 1, acc, spaces, crossed => do
    let p ← get
    if p.rest.head? = some '#' then return (acc, crossed)
    let run := plainRun flow p.rest
    if run.isEmpty then return (acc, crossed)
    let acc := acc ++ spaces ++ run
    Reader.forward run.length
    let (spaces, crossed) ← readPlainSpaces
    let p ← get
    if spaces.isEmpty || p.rest.head? == some '#' || (!flow && p.column < margin) then
      return (acc, crossed)
    else readPlain flow margin fuel acc spaces crossed

/-! ## Quoted scalars -/

def simpleEscape? : Char → Option Char
  | '0' => some '\x00'
  | 'a' => some '\x07'
  | 'b' => some '\x08'
  | 't' => some '\t'
  | '\t' => some '\t'
  | 'n' => some '\n'
  | 'v' => some '\x0b'
  | 'f' => some '\x0c'
  | 'r' => some '\r'
  | 'e' => some '\x1b'
  | ' ' => some ' '
  | '"' => some '"'
  | '\\' => some '\\'
  | '/' => some '/'
  | 'N' => some '\x85'
  | '_' => some '\xa0'
  | 'L' => some '\u2028'
  | 'P' => some '\u2029'
  | _ => none

def escapeWidth? : Char → Option Nat
  | 'x' => some 2
  | 'u' => some 4
  | 'U' => some 8
  | _ => none

/-- The line ends between the lines of a quoted scalar, with the blanks between them. -/
def readQuotedBreaks : Nat → List Char → Reader (List Char)
  | 0, acc => return acc
  | fuel + 1, acc => do
    if (← get).atDocumentMark then Reader.refuse
    Reader.skipWhile fun c => c == ' ' || c == '\t'
    if (← Reader.peek).any isBreak then
      let b ← Reader.readBreak
      readQuotedBreaks fuel (acc ++ b)
    else return acc

def readMoreBreaks : Reader (List Char) := do readQuotedBreaks ((← get).rest.length + 1) []

/-- The blanks within a quoted scalar, with the line ends folded. -/
def readQuotedSpaces : Reader (List Char) := do
  let spaces ← Reader.takeWhile fun c => c == ' ' || c == '\t'
  match ← Reader.peek with
  | none => Reader.refuse
  | some c =>
    if isBreak c then
      let first ← Reader.readBreak
      return folded first (← readMoreBreaks)
    else return spaces

def codedChar (n : Nat) : Reader Text :=
  match CodePoint.ofNat? n with
  | some c => return [c]
  | none => throw (.value (if n < 0x80000000 then .beyondUnicode else .beyondWord))

def readEscape : Reader Text := do
  match ← Reader.peek with
  | none => Reader.refuse
  | some c =>
    match simpleEscape? c, escapeWidth? c with
    | some x, _ => Reader.forward 1; return [.scalar x]
    | none, some width =>
      Reader.forward 1
      let ds := (← get).rest.take width
      if ds.length = width ∧ ds.all fun d => (hexValue? d).isSome then
        let t ← codedChar (digitsInBase 16 ds)
        Reader.forward width
        return t
      else Reader.refuse
    | none, none =>
      if isBreak c then
        let _ ← Reader.readBreak
        return Text.ofChars (← readMoreBreaks)
      else Reader.refuse

/-- The rest of a quoted scalar after what was read so far, which comes in reverse. -/
def readQuoted (quote : Char) : Nat → Text → Reader Text
  | 0, _ => Reader.refuse
  | fuel + 1, acc => do
    match (← get).rest with
    | [] => Reader.refuse
    | c :: rest =>
      if endsWord (some c) then
        let spaces ← readQuotedSpaces
        readQuoted quote fuel ((Text.ofChars spaces).reverse ++ acc)
      else if c = quote then
        if quote = '\'' ∧ rest.head? = some '\'' then
          Reader.forward 2
          readQuoted quote fuel (.scalar '\'' :: acc)
        else
          Reader.forward 1
          return acc.reverse
      else if c = '\\' ∧ quote = '"' then
        Reader.forward 1
        let t ← readEscape
        readQuoted quote fuel (t.reverse ++ acc)
      else
        Reader.forward 1
        readQuoted quote fuel (.scalar c :: acc)

/-! ## Block scalars -/

/-- What becomes of the line ends at the end of a block. -/
inductive Chomping where
  | clip
  | strip
  | keep
deriving DecidableEq

def readChomping : Reader (Option Chomping) := do
  match ← Reader.peek with
  | some '+' => Reader.forward 1; return some .keep
  | some '-' => Reader.forward 1; return some .strip
  | _ => return none

def readIndentDigit : Reader (Option Nat) := do
  match ← Reader.peek with
  | some c =>
    if c.isDigit then
      if c = '0' then Reader.refuse
      Reader.forward 1
      return some (c.toNat - 48)
    else return none
  | none => return none

/-- The head of a block: how it ends and how far it is indented, in any order. -/
def readBlockHead : Reader (Chomping × Option Nat) := do
  let head ← do
    match ← readChomping with
    | some chomping => pure (chomping, ← readIndentDigit)
    | none =>
      match ← readIndentDigit with
      | some n => pure ((← readChomping).getD .clip, some n)
      | none => pure (.clip, none)
  Reader.expect endsItem
  Reader.skipRestOfLine
  return head

/-- The empty lines at the head of a block, and the column up to which they are indented at most. -/
def readLeadingBreaks : Nat → List Char → Nat → Reader (List Char × Nat)
  | 0, acc, width => return (acc, width)
  | fuel + 1, acc, width => do
    match ← Reader.peek with
    | some c =>
      if c = ' ' then
        Reader.skipSpaces
        readLeadingBreaks fuel acc (max width (← get).column)
      else if isBreak c then
        let b ← Reader.readBreak
        readLeadingBreaks fuel (acc ++ b) width
      else return (acc, width)
    | none => return (acc, width)

def skipIndent (column : Nat) : Reader Unit := do
  let p ← get
  Reader.forward (((p.rest.take (column - p.column)).takeWhile (· == ' ')).length)

def readBlockBreaks (column : Nat) : Nat → List Char → Reader (List Char)
  | 0, acc => return acc
  | fuel + 1, acc => do
    skipIndent column
    if (← Reader.peek).any isBreak then
      let b ← Reader.readBreak
      readBlockBreaks column fuel (acc ++ b)
    else return acc

def startsBlank (p : Place) : Bool := p.rest.head? == some ' ' || p.rest.head? == some '\t'

/-- The lines of a block, after what was read so far, and the empty lines before the next. The answer
is the text, the last line end, and the empty lines at the end. -/
def readBlockLines (fold : Bool) (column : Nat) : Nat → List Char → List Char →
    Reader (List Char × List Char × List Char)
  | 0, acc, breaks => return (acc, [], breaks)
  | fuel + 1, acc, breaks => do
    let blank := startsBlank (← get)
    let line ← Reader.takeWhile (!isBreak ·)
    let acc := acc ++ breaks ++ line
    let lineEnd ← Reader.readBreak
    let breaks ← readBlockBreaks column ((← get).rest.length + 1) []
    let p ← get
    if p.column = column ∧ p.rest ≠ [] then
      if fold && lineEnd == ['\n'] && !blank && !startsBlank p then
        readBlockLines fold column fuel (if breaks.isEmpty then acc ++ [' '] else acc) breaks
      else readBlockLines fold column fuel (acc ++ lineEnd) breaks
    else return (acc, lineEnd, breaks)

/-- A block scalar from behind its mark, its lines folded or not, in what begins at a column. -/
def readBlock (fold : Bool) (margin : Nat) : Reader (List Char) := do
  let (chomping, digit?) ← readBlockHead
  let least := max margin 1
  let fuel := (← get).rest.length + 1
  let (breaks, column) ← do
    match digit? with
    | none =>
      -- without a digit the lines at the head say how far the block is indented
      let (breaks, width) ← readLeadingBreaks fuel [] 0
      pure (breaks, max least width)
    | some n =>
      let column := least + n - 1
      pure (← readBlockBreaks column fuel [], column)
  let p ← get
  let (text, lineEnd, breaks) ←
    if p.column = column ∧ p.rest ≠ [] then readBlockLines fold column fuel [] breaks
    else pure ([], [], breaks)
  match chomping with
  | .strip => return text
  | .clip => return text ++ lineEnd
  | .keep => return text ++ lineEnd ++ breaks

end MarkTex.Config.Yaml
