import MarkTex.Text.Matcher
import MarkTex.Text.Case
import MarkTex.Text.Quoted
import MarkTex.Entity.Reference

/-!
# Markup of an HTML fragment

A fragment is read as a row of tags, text and other markup. Nothing is an error that can be read as
text: an unfinished tag, a lone ampersand, a comparison sign. The reader goes over the fragment twice.
The first pass stops where markup is unfinished, since more could follow; the second goes on from
there, knowing that nothing follows, and reads as text what still is unfinished. Only a declaration in
square brackets with an unknown keyword makes the reader refuse the fragment, and a reference by a
decimal number of too many digits.

Inside `script` and `style` all is text up to the end tag; without one it is dropped.
-/

namespace MarkTex.Html

/-- The kinds of markup that hold neither text nor elements. -/
inductive Aside where
  | comment
  | doctype
  | section
  | declaration
  | instruction
deriving DecidableEq

inductive Markup where
  | text (t : Text)
  | openTag (name : List Char) (attributes : List (List Char × Option (List Char)))
  | emptyTag (name : List Char) (attributes : List (List Char × Option (List Char)))
  | closeTag (name : List Char)
  | aside (kind : Aside)

/-- Why a fragment is refused. -/
inductive Rejection where
  | nameExpected (near : List Char)
  | unknownKeyword (keyword : List Char)
  /-- A number with too many digits, by their count. -/
  | longNumber (count : Nat)
deriving DecidableEq

/-- A refusal of markup, for a reason. -/
def Rejection.told (reason : String) : String :=
  "The markup you provided was rejected by the parser. Trying a different parser or a different " ++
    "encoding may help.\n\nOriginal error(s) from parser:\n  AssertionError: " ++ reason

def Rejection.message : Rejection → String
  | nameExpected near => told ("expected name token at " ++ quoted (Text.ofChars near))
  | unknownKeyword keyword =>
    told ("unknown status keyword " ++ quoted (Text.ofChars keyword) ++ " in marked section")
  | longNumber count => Integer.excessMessage count

namespace Scan

def isLetter (c : Char) : Bool := c.isAlpha

/-- Blanks and slashes, but no slash before the end of a tag. -/
def filler : Matcher Unit := do
  let _ ← Matcher.repeat0 (((fun _ => ()) <$> Matcher.char isBlank) <|> do
    Matcher.exactly '/'
    Matcher.aheadNot (· == '>'))
  return ()

def tagName : Matcher (List Char) := do
  let c ← Matcher.char isLetter
  let rest ← Matcher.many0 fun c =>
    !(c == '\t' || c == '\n' || c == '\r' || c == '\x0c' || c == ' ' || c == '/' || c == '>' ||
      c == '\x00')
  return c :: rest

/-- The value of an attribute between quotes, the quotes included. -/
def quotedValue (quote : Char) : Matcher (List Char) := do
  Matcher.exactly quote
  let body ← Matcher.many0 (· != quote)
  Matcher.exactly quote
  return quote :: body ++ [quote]

def bareValue : Matcher (List Char) := do
  Matcher.aheadNot fun c => c == '\'' || c == '"'
  Matcher.many0 fun c => !(c == '>' || isBlank c)

def value : Matcher (List Char) := quotedValue '\'' <|> quotedValue '"' <|> bareValue

def attributeName : Matcher (List Char) := do
  Matcher.after fun c => c == '\'' || c == '"' || c == '/' || isBlank c
  let c ← Matcher.char fun c => !(c == '/' || c == '>' || isBlank c)
  let rest ← Matcher.many0 fun c => !(c == '/' || c == '=' || c == '>' || isBlank c)
  return c :: rest

/-- An equals sign, or several, and the value after it. -/
def assigned : Matcher (List Char) := do
  let _ ← Matcher.many0 isBlank
  let _ ← Matcher.many1 (· == '=')
  let _ ← Matcher.many0 isBlank
  value

/-- An attribute, with its value as written if it has one. -/
def oneAttribute : Matcher (List Char × Option (List Char)) := do
  let name ← attributeName
  let v ← Matcher.optional assigned
  filler
  return (name, v)

/-- The part of a start tag before its closing sign. -/
def startTagBody : Matcher Unit := do
  Matcher.exactly '<'
  let _ ← tagName
  let _ ← Matcher.optional do
    let _ ← Matcher.many0 fun c => c == '/' || isBlank c
    Matcher.repeat0 do
      let _ ← attributeName
      let _ ← Matcher.optional do
        let _ ← assigned
        Matcher.many0 isBlank
      filler
  let _ ← Matcher.many0 isBlank
  return ()

def endTag : Matcher (List Char) := do
  Matcher.word "</"
  let _ ← Matcher.many0 isBlank
  let c ← Matcher.char isLetter
  let rest ← Matcher.many0 fun c =>
    c == '-' || c == '.' || c == ':' || c == '_' || c.isAlphanum
  let _ ← Matcher.many0 isBlank
  Matcher.exactly '>'
  return c :: rest

/-- The end tag of an element whose content is all text. -/
def closing (name : List Char) : Matcher Unit := do
  Matcher.word "</"
  let _ ← Matcher.many0 isBlank
  for x in name do
    let _ ← Matcher.char fun c => c.toLower == x
  let _ ← Matcher.many0 isBlank
  Matcher.exactly '>'

/-- The value of an attribute without its quotes. -/
def unquoted (raw : List Char) : List Char :=
  match raw.head?, raw.getLast? with
  | some '\'', some '\'' => (raw.drop 1).dropLast
  | some '"', some '"' => (raw.drop 1).dropLast
  | _, _ => raw

/-- The attributes from a place to the end of a start tag as they are written, with the place where they
end. Each attribute reads at least one character, so the number of characters bounds their number. -/
def attributes (stop : Nat) : Nat → Cursor → List (List Char × Option (List Char)) × Cursor
  | 0, c => ([], c)
  | n + 1, c =>
    if c.rest.length ≤ stop then ([], c)
    else match oneAttribute.run? c with
      | none => ([], c)
      | some ((name, v), c') =>
        let (rest, last) := attributes stop n c'
        ((lowerCase name, v.map unquoted) :: rest, last)

/-- What stands at a sign that begins markup. -/
inductive Found where
  /-- Markup that ends at a place; the last part says which element's content is all text from there. -/
  | markup (events : List Markup) (after : Cursor) (raw : Option (List Char))
  /-- Markup that is not finished. -/
  | unfinished
  /-- Markup that is refused. -/
  | refused (why : Rejection)

/-- The place after the first of a character, if there is one. -/
def pastFirst? (x : Char) (c : Cursor) : Option Cursor :=
  let n := (c.rest.takeWhile (· != x)).length
  if n < c.rest.length then some (c.advance (n + 1)) else none

/-- Where a start tag ends: `none` when it is not finished. -/
def startTagEnd? (c : Cursor) : Option Cursor :=
  match startTagBody.run? c with
  | none => none
  | some (_, j) =>
    match j.rest with
    | '>' :: _ => some (j.advance 1)
    | '/' :: '>' :: _ => some (j.advance 2)
    | [] => none
    | x :: _ => if x == '/' || x == '=' || isLetter x then none else some j

def startTag (raw : Option (List Char)) (c : Cursor) : Found :=
  match startTagEnd? c with
  | none => .unfinished
  | some stop =>
    match (do let n ← tagName; filler; return n : Matcher (List Char)).run? (c.advance 1) with
    | none => .unfinished
    | some (name, k) =>
      let name := lowerCase name
      let (attrs, k) := attributes stop.rest.length c.rest.length k
      match attrs.findSome? fun a => a.2.bind Entity.longNumber? with
      | some count => .refused (.longNumber count)
      | none =>
        let attrs := attrs.map fun a => (a.1, a.2.map (Entity.decode .lenient))
        let tail := trimBlank (k.upTo stop)
        if tail = ['>'] then
          let raw := if name = "script".toList ∨ name = "style".toList then some name else raw
          .markup [.openTag name attrs] stop raw
        else if tail = ['/', '>'] then .markup [.emptyTag name attrs] stop raw
        else .markup [.text (Text.ofChars (c.upTo stop))] stop raw

/-- Markup that is passed over as far as the first closing sign after its two opening characters. -/
def bogus (kind : Aside) (raw : Option (List Char)) (c : Cursor) : Found :=
  match pastFirst? '>' (c.advance 2) with
  | none => .unfinished
  | some after => .markup [.aside kind] after raw

def endTagAt (raw : Option (List Char)) (c : Cursor) : Found :=
  match pastFirst? '>' (c.advance 1) with
  | none => .unfinished
  | some stop =>
    match endTag.run? c with
    | some (name, _) =>
      let name := lowerCase name
      if raw.any (· != name) then .markup [.text (Text.ofChars (c.upTo stop))] stop raw
      else .markup [.closeTag name] stop none
    | none =>
      if raw.isSome then .markup [.text (Text.ofChars (c.upTo stop))] stop raw
      else
        match (do let n ← tagName; filler; return n : Matcher (List Char)).run? (c.advance 2) with
        | none =>
          if (c.rest.drop 2).head? = some '>' then .markup [] (c.advance 3) raw
          else bogus .comment raw c
        | some (name, after) =>
          match pastFirst? '>' after with
          | none => .unfinished
          | some after => .markup [.closeTag (lowerCase name)] after raw

/-- The keyword of a declaration in square brackets. -/
def sectionName : Matcher (List Char × List Char) := do
  let first ← Matcher.char isLetter
  let rest ← Matcher.runOf fun c => c == '-' || c == '_' || c == '.' || c.isAlphanum
  let blanks ← Matcher.runOf isBlank
  return (first :: rest, blanks)

/-- A declaration in square brackets. -/
def markedSection (raw : Option (List Char)) (c : Cursor) : Found :=
  let inner := c.advance 3
  if inner.rest.isEmpty then .unfinished
  else match sectionName.run? inner with
    | none => .refused (.nameExpected (c.rest.take 20))
    | some ((name, blanks), after) =>
      if after.rest.isEmpty then .unfinished
      else
        let key := String.ofList (lowerCase name)
        let close : Option (Matcher Unit) :=
          if ["temp", "cdata", "ignore", "include", "rcdata"].contains key then
            some do
              Matcher.exactly ']'
              let _ ← Matcher.many0 isBlank
              Matcher.exactly ']'
              let _ ← Matcher.many0 isBlank
              Matcher.exactly '>'
          else if ["if", "else", "endif"].contains key then
            some do
              Matcher.exactly ']'
              let _ ← Matcher.many0 isBlank
              Matcher.exactly '>'
          else none
        match close with
        | none => .refused (.unknownKeyword (name ++ blanks))
        | some close =>
          match Matcher.search? close inner with
          | none => .unfinished
          | some (_, _, after) =>
            -- the keyword of a section of character data has the bracket right behind it
            let isSection := "CDATA[".toList.isPrefixOf (upperCase (inner.rest.take 6))
            .markup [.aside (if isSection then .section else .declaration)] after raw

def comment (raw : Option (List Char)) (c : Cursor) : Found :=
  let close : Matcher Unit := do
    Matcher.word "--"
    let _ ← Matcher.many0 isBlank
    Matcher.exactly '>'
  match Matcher.search? close (c.advance 4) with
  | none => .unfinished
  | some (_, _, after) => .markup [.aside .comment] after raw

/-- What begins at a left angle bracket; `none` for a bracket that is the whole rest. -/
def atBracket (raw : Option (List Char)) (c : Cursor) : Option Found :=
  match c.rest.drop 1 with
  | '/' :: _ => some (endTagAt raw c)
  | '!' :: '-' :: '-' :: _ => some (comment raw c)
  | '?' :: _ => some (bogus .instruction raw c)
  | '!' :: '[' :: _ => some (markedSection raw c)
  | '!' :: _ =>
    if lowerCase (c.rest.take 9) = "<!doctype".toList then
      match pastFirst? '>' (c.advance 9) with
      | none => some .unfinished
      | some after => some (.markup [.aside .doctype] after raw)
    else some (bogus .comment raw c)
  | x :: _ =>
    if isLetter x then some (startTag raw c)
    else some (.markup [.text (Text.ofString "<")] (c.advance 1) raw)
  | [] => none

/-- The text of a reference by number. The numbers below 256 are those of the Western code page, and a
number that is no code point means U+FFFD. -/
def numberText (n : Nat) : Text :=
  if n < 0x100 then [.scalar ((Encoding.westernChar? n).getD (Char.ofNat n))]
  else [(CodePoint.ofNat? n).getD (.scalar '\uFFFD')]

/-- A reference by number after `&#`: its text or why it is refused, with how many characters it takes
in all. It needs a character after it that is no hexadecimal digit. -/
def numberReference? (rest : List Char) : Option (Except Rejection Text × Nat) :=
  let check (base : Nat) (ds : List Char) (lead : Nat) : Option (Except Rejection Text × Nat) :=
    match rest.drop (lead + ds.length) with
    | [] => none
    | x :: _ =>
      if ds.isEmpty || Entity.isHexDigit x then none
      else
        some (if base = 10 ∧ Integer.digitBound < ds.length then .error (.longNumber ds.length)
            else .ok (numberText (Entity.digitsValue base ds)),
          2 + lead + ds.length + (if x == ';' then 1 else 0))
  match rest with
  | 'x' :: ds => check 16 (ds.takeWhile Entity.isHexDigit) 1
  | 'X' :: ds => check 16 (ds.takeWhile Entity.isHexDigit) 1
  | _ => check 10 (rest.takeWhile Char.isDigit) 0

/-- The name of a reference after an ampersand, with whether it ends in a semicolon. A name is
followed by a character that is neither letter nor digit. -/
def referenceName? (rest : List Char) : Option (List Char × Bool) :=
  match rest with
  | [] => none
  | x :: _ =>
    if !isLetter x then none
    else
      let run := rest.takeWhile fun c => c == '-' || c == '.' || c.isAlphanum
      match rest.drop run.length with
      | y :: _ => some (run, y == ';')
      | [] =>
        let kept := run.reverse.dropWhile fun c => c.isAlphanum
        if kept.isEmpty then none else some ((kept.drop 1).reverse, false)

/-- The text of a reference by name. A name that is not known keeps its ampersand. -/
def nameText (name : List Char) : Text :=
  match Entity.named? (String.ofList name) with
  | some s => Text.ofString s
  | none => Text.ofChars ('&' :: name)

/-- Where a pass over a fragment stopped. -/
structure Halt where
  events : List Markup
  after : Cursor
  raw : Option (List Char)

/-- One pass over a fragment. In the last pass unfinished markup is text. The bound on the number of
steps is never reached, since every step reads a character or ends the pass. -/
def pass (last : Bool) : Nat → Option (List Char) → Cursor → Except Rejection Halt
  | 0, raw, c => .ok ⟨[], c, raw⟩
  | n + 1, raw, c =>
    let prepend (events : List Markup) (r : Except Rejection Halt) : Except Rejection Halt :=
      r.map fun h => { h with events := events ++ h.events }
    if c.rest.isEmpty then .ok ⟨[], c, raw⟩
    else
      -- in an element whose content is all text only its end tag counts
      let place : Option Cursor :=
        match raw with
        | none => some (c.advance (c.rest.takeWhile fun x => x != '&' && x != '<').length)
        | some name => (Matcher.search? (closing name) c).map (·.1)
      match place with
      | none => .ok ⟨[], c, raw⟩
      | some j =>
        let passed := c.upTo j
        let before : List Markup := if passed.isEmpty then [] else [.text (Text.ofChars passed)]
        prepend before <|
        match j.rest with
        | [] => .ok ⟨[], j, raw⟩
        | '<' :: _ =>
          match atBracket raw j with
          | none => .ok ⟨[], j, raw⟩
          | some (.refused why) => .error why
          | some (.markup events after raw) => prepend events (pass last n raw after)
          | some .unfinished =>
            if !last then .ok ⟨[], j, raw⟩
            else
              -- the text goes as far as the sign that would close it, or the bracket before which more
              -- begins
              let k :=
                match pastFirst? '>' (j.advance 1) with
                | some k => k
                | none =>
                  match pastFirst? '<' (j.advance 1) with
                  | some k => j.advance (j.rest.length - k.rest.length - 1)
                  | none => j.advance 1
              prepend [.text (Text.ofChars (j.upTo k))] (pass last n raw k)
        | '&' :: '#' :: rest =>
          match numberReference? rest with
          | some (.error why, _) => .error why
          | some (.ok t, taken) => prepend [.text t] (pass last n raw (j.advance taken))
          | none =>
            -- a semicolon further on ends the pass behind the two characters, else before them
            if j.rest.contains ';' then .ok ⟨[.text (Text.ofString "&#")], j.advance 2, raw⟩
            else .ok ⟨[], j, raw⟩
        | _ :: rest =>
          match referenceName? rest with
          | some (name, closed) =>
            prepend [.text (nameText name)]
              (pass last n raw (j.advance (1 + name.length + (if closed then 1 else 0))))
          | none =>
            match rest with
            | [] => .ok ⟨[], j, raw⟩
            | x :: more =>
              if isLetter x then
                -- letters here may be a name that is not finished
                if last && more.isEmpty then .ok ⟨[], j.advance 1, raw⟩ else .ok ⟨[], j, raw⟩
              else prepend [.text (Text.ofString "&")] (pass last n raw (j.advance 1))

end Scan

def Markup.read (cs : List Char) : Except Rejection (List Markup) := do
  let first ← Scan.pass false (2 * cs.length + 2) none (Cursor.start cs)
  let second ← Scan.pass true (2 * cs.length + 2) first.raw (Cursor.start first.after.rest)
  let remaining :=
    if second.after.rest.isEmpty || second.raw.isSome then []
    else [.text (Text.ofChars second.after.rest)]
  return first.events ++ second.events ++ remaining

end MarkTex.Html
