import MarkTex.Markdown.Token
import MarkTex.Text.Matcher
import MarkTex.Text.Punctuation

/-!
# Parts of a line of text

A line of text is first cut into parts. Some are tokens; others wait for what comes after them: plain
characters for more of them, runs of stars or underscores for their partners, brackets for the bracket
that closes them.
-/

namespace MarkTex.Markdown

/-- A run of stars or underscores. -/
structure Run where
  mark : Char
  length : Nat
  /-- The length before any of its characters paired. -/
  fullLength : Nat
  canOpen : Bool
  canClose : Bool

namespace Run

/-- A run between the characters before and after it; the ends of the text count as blanks. -/
def between (mark : Char) (length : Nat) (before after : Option Char) : Run :=
  let blankBefore := before.all isBlank
  let blankAfter := after.all isBlank
  let punctuationBefore := before.any isPunctuation
  let punctuationAfter := after.any isPunctuation
  let left := !blankAfter && (!punctuationAfter || blankBefore || punctuationBefore)
  let right := !blankBefore && (!punctuationBefore || blankAfter || punctuationAfter)
  if mark = '_' then
    ⟨mark, length, length, left && (!right || punctuationBefore), right && (!left || punctuationAfter)⟩
  else ⟨mark, length, length, left, right⟩

def characters (r : Run) : List Char := List.replicate r.length r.mark

def shorten (r : Run) (n : Nat) : Run := { r with length := r.length - n }

end Run

/-- An opening bracket that nothing has closed yet. -/
structure Bracket where
  image : Bool
  /-- Whether it can still open something: a link holds no other link. -/
  active : Bool
  behind : Cursor

namespace Bracket

def characters (b : Bracket) : List Char := if b.image then ['!', '['] else ['[']

end Bracket

inductive Part where
  /-- Characters that stand for themselves. -/
  | plain (cs : List Char)
  | token (t : Token)
  /-- An address between angle brackets, with its text as written. -/
  | address (written : List Char) (t : Token)
  | run (r : Run)
  | bracket (b : Bracket)

namespace Part

/-- The token of a part that waits for nothing more. -/
def settled : Part → Token
  | plain cs => .leaf .text cs
  | token t => t
  | address _ t => t
  | run r => .leaf .text r.characters
  | bracket b => .leaf .text b.characters

/-- A run as a part; one that is used up is an empty text. -/
def ofRun (r : Run) : Part := if r.length = 0 then token (.leaf .text []) else run r

def isRun : Part → Bool
  | run _ => true
  | _ => false

/-- A part in which an open bracket is plain characters. -/
def unopened : Part → Part
  | bracket b => plain b.characters
  | p => p

/-- A part inside a link, where an address is no link of its own. -/
def unlinked : Part → Part
  | address written _ => token (.leaf .text written)
  | p => p

/-- A part before a link, where an open bracket can no longer open one. -/
def deactivated : Part → Part
  | bracket b => bracket { b with active := b.active && b.image }
  | p => p

end Part

/-- Parts with neighbouring plain ones as one. -/
def joinPlain : List Part → List Part
  | [] => []
  | .plain cs :: rest =>
    match joinPlain rest with
    | .plain ds :: rest' => .plain (cs ++ ds) :: rest'
    | rest' => .plain cs :: rest'
  | p :: rest => p :: joinPlain rest

/-- The innermost open bracket of parts that come latest first: the parts after it, the bracket, and the
parts before it. -/
def splitAtBracket : List Part → Option (List Part × Bracket × List Part)
  | [] => none
  | .bracket b :: before => some ([], b, before)
  | p :: before => (splitAtBracket before).map fun s => (p :: s.1, s.2)

end MarkTex.Markdown
