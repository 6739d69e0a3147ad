import MarkTex.Text.Matcher

/-!
# Markup inside a line of text

Addresses between angle brackets, raw HTML, and math between dollars: the parts of a line of text that
are recognised by their form alone.
-/

namespace MarkTex.Markdown.InlineMarkup

def isTagChar (c : Char) : Bool := c.isAlphanum || c == '-'

def tagName : Matcher Unit := do
  let _ ← Matcher.char Char.isAlpha
  let _ ← Matcher.many0 isTagChar

def attributeValue : Matcher Unit :=
  (do let _ ← Matcher.many1 fun c => !(" !\"'=<>`".toList.contains c)) <|>
  (do
    Matcher.exactly '\''
    let _ ← Matcher.runOf (· != '\'')
    Matcher.exactly '\'') <|>
  (do
    Matcher.exactly '"'
    let _ ← Matcher.runOf (· != '"')
    Matcher.exactly '"')

def tagAttribute : Matcher Unit := do
  let _ ← Matcher.many1 isBlank
  let _ ← Matcher.char fun c => c.isAlpha || c == '_' || c == ':'
  let _ ← Matcher.many0 fun c => c.isAlphanum || "_.:-".toList.contains c
  let _ ← Matcher.optional do
    let _ ← Matcher.many0 isBlank
    Matcher.exactly '='
    let _ ← Matcher.many0 isBlank
    attributeValue

def tagAttributes : Matcher Unit := do
  let _ ← Matcher.repeat0 tagAttribute

def openTag : Matcher Unit := do
  Matcher.exactly '<'
  tagName
  tagAttributes
  let _ ← Matcher.many0 isBlank
  let _ ← Matcher.optional (Matcher.exactly '/')
  Matcher.exactly '>'

def closeTag : Matcher Unit := do
  Matcher.word "</"
  tagName
  let _ ← Matcher.many0 isBlank
  Matcher.exactly '>'

/-- As few characters as possible and a closing word. -/
def upTo (closing : String) : Matcher Unit := do
  let _ ← Matcher.through (fun _ => true) closing.toList

/-- A comment. The hyphens that open it may be those that close it. -/
def comment : Matcher Unit :=
  Matcher.word "<!-->" <|> Matcher.word "<!--->" <|> do
    Matcher.word "<!--"
    upTo "-->"

def instruction : Matcher Unit := do
  Matcher.word "<?"
  upTo "?>"

/-- A declaration: a name in capitals, a blank, and anything but the closing sign. -/
def declaration : Matcher Unit := do
  Matcher.word "<!"
  let _ ← Matcher.many1 fun c => 'A' ≤ c && c ≤ 'Z'
  let _ ← Matcher.char isBlank
  let _ ← Matcher.runOf (· != '>')
  Matcher.exactly '>'

def characterData : Matcher Unit := do
  Matcher.word "<![CDATA["
  upTo "]]>"

def html : Matcher Unit :=
  openTag <|> closeTag <|> comment <|> instruction <|> declaration <|> characterData

/-- An address with a scheme between angle brackets. -/
def address : Matcher Unit := do
  Matcher.exactly '<'
  let _ ← Matcher.char Char.isAlpha
  let _ ← Matcher.many (fun c => c.isAlphanum || ".+-".toList.contains c) 1 31
  Matcher.exactly ':'
  let _ ← Matcher.runOf fun c => !(c == '<' || c == '>' || c.toNat ≤ 0x20)
  Matcher.exactly '>'

/-- A part of the name of a host. -/
def hostLabel : Matcher Unit := do
  let _ ← Matcher.char Char.isAlphanum
  let _ ← Matcher.optional do
    let _ ← Matcher.many isTagChar 0 61
    let _ ← Matcher.char Char.isAlphanum

/-- An address of mail between angle brackets. -/
def mailAddress : Matcher Unit := do
  Matcher.exactly '<'
  let _ ← Matcher.many1 fun c =>
    c.isAlphanum || ".!#$%&'*+/=?^_`\x7b|\x7d~-".toList.contains c
  Matcher.exactly '@'
  hostLabel
  let _ ← Matcher.repeat0 do
    Matcher.exactly '.'
    hostLabel
  Matcher.exactly '>'

def escapePair (p : Char → Bool) : Matcher Unit := do
  Matcher.exactly '\\'
  let _ ← Matcher.char p

/-- Display math between double dollars, with its body, which holds no dollar but after a backslash. -/
def displayMath : Matcher (List Char) := do
  Matcher.word "$$"
  let body ← Matcher.textOf (Matcher.repeat0
    (escapePair (fun _ => true) <|> do
      let _ ← Matcher.char fun c => !(c == '\\' || c == '$')))
  Matcher.word "$$"
  return body

/-- A character of inline math: any but a line end, a dollar or a lone backslash, or a backslash with
the character after it. -/
def mathUnit : Matcher Unit :=
  escapePair (· != '\n') <|> do
    let _ ← Matcher.char fun c => !(c == '\\' || c == '$' || c == '\n')

/-- Inline math whose body stands between as many backquotes on both sides as well, with its body. -/
def quotedMath : Matcher (List Char) := do
  Matcher.exactly '$'
  let quotes ← Matcher.many1 (· == '`')
  Matcher.through (· != '\n') (quotes ++ ['$'])

/-- Inline math between dollars, with its body. The first dollar has no blank after it, and the last
one no digit. -/
def plainMath : Matcher (List Char) := do
  Matcher.exactly '$'
  Matcher.aheadNot isBlank
  let body ← Matcher.textOf (Matcher.repeatAtLeast mathUnit 1)
  Matcher.exactly '$'
  Matcher.aheadNot isDecimalDigit
  return body

/-- Inline math, with its body. -/
def inlineMath : Matcher (List Char) := quotedMath <|> plainMath

/-- The end of struck text: its last character and the closing tildes. -/
def strikeEnd : Matcher Unit := do
  let escaped : Matcher Unit := do
    Matcher.afterNot (· == '\\')
    let _ ← Matcher.repeat0 (Matcher.word "\\\\")
    Matcher.word "\\~"
  let plain : Matcher Unit := do
    let _ ← Matcher.char fun c => !(isBlank c || c == '~')
  escaped <|> plain
  Matcher.word "~~"

end MarkTex.Markdown.InlineMarkup
