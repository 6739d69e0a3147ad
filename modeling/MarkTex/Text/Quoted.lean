import MarkTex.Text.Printable
import MarkTex.Text.CodePoint

/-!
# Quoted text

Messages show a piece of text between quotes, in one line and in printable characters. Single quotes
are used unless the text holds some and no double ones. The quote in use, the backslash, and whatever
is not printable are written as escapes.
-/

namespace MarkTex

/-- A number in lower-case hexadecimal digits, with zeros before it up to a width. -/
def paddedHex (width n : Nat) : String :=
  let ds := Nat.toDigits 16 n
  String.ofList (List.replicate (width - ds.length) '0' ++ ds)

def numberEscape (n : Nat) : String :=
  if n < 0x100 then "\\x" ++ paddedHex 2 n
  else if n < 0x10000 then "\\u" ++ paddedHex 4 n
  else "\\U" ++ paddedHex 8 n

/-- A code point as it stands between the given quotes. -/
def quotedCodePoint (quote : Char) : CodePoint → String
  | .scalar c =>
    if c = quote ∨ c = '\\' then String.ofList ['\\', c]
    else if c = '\n' then "\\n"
    else if c = '\r' then "\\r"
    else if c = '\t' then "\\t"
    else if isPrintable c then String.ofList [c]
    else numberEscape c.toNat
  | .surrogate k => numberEscape (0xD800 + k)

def quoted (t : Text) : String :=
  let quote := if t.contains (.scalar '\'') && !t.contains (.scalar '"') then '"' else '\''
  let mark := String.ofList [quote]
  mark ++ String.join (t.map (quotedCodePoint quote)) ++ mark

def quotedString (s : String) : String := quoted (Text.ofString s)

end MarkTex
