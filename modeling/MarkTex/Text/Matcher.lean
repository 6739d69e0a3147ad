import MarkTex.Text.Blank
import MarkTex.Text.Digit

/-!
# Matching with alternatives

A matcher reads characters from a place in a text and offers its outcomes one by one, the preferred
one first. Sequencing two matchers tries every outcome of the first with the second, so a choice that
leads nowhere is taken back. The outcomes behind the first are computed only when they are asked for.
-/

namespace MarkTex

/-- A place in a text: the character before it, if any, and the characters from it on. -/
structure Cursor where
  before : Option Char
  rest : List Char

namespace Cursor

def start (cs : List Char) : Cursor := ⟨none, cs⟩

/-- The place a number of characters further on. -/
def advance : Nat → Cursor → Cursor
  | 0, c => c
  | _ + 1, ⟨b, []⟩ => ⟨b, []⟩
  | n + 1, ⟨_, x :: rest⟩ => advance n ⟨some x, rest⟩

def atLineStart (c : Cursor) : Bool :=
  match c.before with
  | none => true
  | some b => b == '\n'

def atLineEnd (c : Cursor) : Bool :=
  match c.rest with
  | [] => true
  | x :: _ => x == '\n'

/-- The characters between a place and a later place of the same text. -/
def upTo (c later : Cursor) : List Char := c.rest.take (c.rest.length - later.rest.length)

/-- The place from which the text is a given end of the text from here. -/
def seek (c : Cursor) (rest : List Char) : Cursor := c.advance (c.rest.length - rest.length)

/-- The rest of a line with its end, and the place behind it. -/
def line (c : Cursor) : List Char × Cursor :=
  let text := c.rest.takeWhile (· != '\n')
  let after := c.advance text.length
  if after.rest.isEmpty then (text, after) else (text ++ ['\n'], after.advance 1)

/-- The place behind the end of the line at which a rule stopped. -/
def nextLine (c : Cursor) : Cursor := c.advance 1

def finish (c : Cursor) : Cursor := c.advance c.rest.length

end Cursor

/-- The outcomes of a matcher, the preferred one first. -/
inductive Outcomes (α : Type) where
  | none
  | some (value : α) (after : Cursor) (otherwise : Unit → Outcomes α)

namespace Outcomes

/-- The preferred outcome. -/
def first? : Outcomes α → Option (α × Cursor)
  | none => .none
  | some a c _ => .some (a, c)

/-- The outcomes of one matcher and after them those of another. -/
def append : Outcomes α → (Unit → Outcomes α) → Outcomes α
  | none, next => next ()
  | some a c more, next => some a c fun _ => append (more ()) next

/-- The outcomes of going on from each outcome. -/
def bind : Outcomes α → (α → Cursor → Outcomes β) → Outcomes β
  | none, _ => none
  | some a c more, f => append (f a c) fun _ => bind (more ()) f

end Outcomes

/-- A way to read characters from a place on. -/
def Matcher (α : Type) := Cursor → Outcomes α

namespace Matcher

instance : Monad Matcher where
  pure a := fun c => .some a c fun _ => .none
  bind m f := fun c => (m c).bind fun a c' => f a c'

def run? (m : Matcher α) (c : Cursor) : Option (α × Cursor) := (m c).first?

/-- No outcome. -/
def fail : Matcher α := fun _ => .none

/-- The first matcher, and after its outcomes those of the second. -/
def orElse (m n : Matcher α) : Matcher α := fun c => (m c).append fun _ => n c

instance : OrElse (Matcher α) where
  orElse m n := fun c => (m c).append fun _ => n () c

/-- Goes on only where a condition on the place holds. -/
def guardAt (p : Cursor → Bool) : Matcher Unit := fun c =>
  if p c then .some () c fun _ => .none else .none

def lineStart : Matcher Unit := guardAt Cursor.atLineStart

def lineEnd : Matcher Unit := guardAt Cursor.atLineEnd

/-- Where the character before fails a test, or the text begins. -/
def afterNot (p : Char → Bool) : Matcher Unit := guardAt fun c => !(c.before.any p)

/-- Where the character before satisfies a test. -/
def after (p : Char → Bool) : Matcher Unit := guardAt fun c => c.before.any p

/-- Where the next character fails a test, or the text ends. -/
def aheadNot (p : Char → Bool) : Matcher Unit := guardAt fun c => !(c.rest.head?.any p)

def char (p : Char → Bool) : Matcher Char := fun c =>
  match c.rest with
  | [] => .none
  | x :: rest => if p x then .some x ⟨some x, rest⟩ fun _ => .none else .none

def exactly (x : Char) : Matcher Unit := do
  let _ ← char (· == x)
  return ()

def word (w : String) : Matcher Unit := fun c =>
  if w.toList.isPrefixOf c.rest then
    .some () (c.advance w.length) fun _ => .none
  else .none

/-- The places that a run of characters passes, the furthest first: each with how many characters were
passed, and those characters in reverse. -/
def runPlaces (p : Char → Bool) : Nat → Nat → List Char → Cursor → List (Nat × List Char × Cursor) →
    List (Nat × List Char × Cursor)
  | 0, count, acc, c, places => (count, acc, c) :: places
  | n + 1, count, acc, c, places =>
    match c.rest with
    | [] => (count, acc, c) :: places
    | x :: rest =>
      if p x then runPlaces p n (count + 1) (x :: acc) ⟨some x, rest⟩ ((count, acc, c) :: places)
      else (count, acc, c) :: places

/-- The outcomes for places that come furthest first, as long as `low` characters or more were passed. -/
def ofPlaces (low : Nat) : List (Nat × List Char × Cursor) → Outcomes (List Char)
  | [] => .none
  | (count, acc, c) :: places =>
    if low ≤ count then .some acc.reverse c fun _ => ofPlaces low places else .none

/-- A run of at least `low` and at most `high` characters that satisfy a test, as long as possible. -/
def many (p : Char → Bool) (low high : Nat) : Matcher (List Char) := fun c =>
  ofPlaces low (runPlaces p high 0 [] c [])

/-- A run of characters that satisfy a test, as long as possible. -/
def many0 (p : Char → Bool) : Matcher (List Char) := fun c => many p 0 c.rest.length c

/-- A run of one or more characters that satisfy a test, as long as possible. -/
def many1 (p : Char → Bool) : Matcher (List Char) := fun c => many p 1 c.rest.length c

/-- The outcomes of reading characters that satisfy a test and then a word, from a place after some
characters, which come in reverse. -/
def throughFrom (p : Char → Bool) (w : List Char) (acc : List Char) (before : Option Char) :
    List Char → Outcomes (List Char)
  | [] => if w.isEmpty then .some acc.reverse ⟨before, []⟩ fun _ => .none else .none
  | x :: rest =>
    let more (_ : Unit) : Outcomes (List Char) :=
      if p x then throughFrom p w (x :: acc) (some x) rest else .none
    if w.isPrefixOf (x :: rest) then
      .some acc.reverse (Cursor.advance w.length ⟨before, x :: rest⟩) more
    else more ()

/-- As few characters that satisfy a test as possible, and then a word: the characters before it. -/
def through (p : Char → Bool) (w : List Char) : Matcher (List Char) := fun c =>
  throughFrom p w [] c.before c.rest

/-- The whole of a run of characters, never given back. -/
def runOf (p : Char → Bool) : Matcher (List Char) := fun c =>
  let taken := c.rest.takeWhile p
  .some taken (c.advance taken.length) fun _ => .none

/-- The matcher if it has an outcome, else nothing. -/
def optional (m : Matcher α) : Matcher (Option α) := fun c =>
  ((m c).bind fun a c' => .some (some a) c' fun _ => .none).append fun _ =>
    .some none c fun _ => .none

/-- Repetitions of a matcher, as many as possible, at most as many as a bound has elements; one that
reads nothing ends the row. -/
def repeatUpTo (m : Matcher α) : List Char → Matcher (List α)
  | [] => pure []
  | _ :: bound => fun c =>
    ((m c).bind fun a c' =>
      if c'.rest.length < c.rest.length then
        (repeatUpTo m bound c').bind fun as c'' => .some (a :: as) c'' fun _ => .none
      else .none).append fun _ => .some [] c fun _ => .none

/-- Repetitions of a matcher, as many as possible. -/
def repeat0 (m : Matcher α) : Matcher (List α) := fun c => repeatUpTo m c.rest c

/-- At least `low` repetitions of a matcher, as many as possible. -/
def repeatAtLeast (m : Matcher α) (low : Nat) : Matcher (List α) := do
  let as ← repeat0 m
  if low ≤ as.length then return as else fail

/-- The characters that a matcher reads. -/
def textOf (m : Matcher α) : Matcher (List Char) := fun c =>
  (m c).bind fun _ c' => .some (c.upTo c') c' fun _ => .none

/-- The first place at or after a place where a matcher has an outcome. -/
def search? (m : Matcher α) (c : Cursor) : Option (Cursor × α × Cursor) :=
  go c.rest c.before
where
  go : List Char → Option Char → Option (Cursor × α × Cursor)
    | [], b => ((m ⟨b, []⟩).first?).map fun r => (⟨b, []⟩, r.1, r.2)
    | x :: rest, b =>
      match (m ⟨b, x :: rest⟩).first? with
      | some r => some (⟨b, x :: rest⟩, r.1, r.2)
      | none => go rest (some x)

end Matcher

end MarkTex
