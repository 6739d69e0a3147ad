import MarkTex.Text.Blank

/-!
# Lines

Cutting a text into its lines, and the tabs at the head of a line.
-/

namespace MarkTex

/-- The lines of a text without their line ends; there is one more than there are line ends. -/
def splitLines : List Char → List (List Char)
  | [] => [[]]
  | c :: cs =>
    if c = '\n' then [] :: splitLines cs
    else
      match splitLines cs with
      | [] => [[c]]
      | l :: ls => (c :: l) :: ls

def joinLines : List (List Char) → List Char
  | [] => []
  | [l] => l
  | l :: ls => l ++ '\n' :: joinLines ls

theorem splitLines_ne_nil (cs : List Char) : splitLines cs ≠ [] := by
  cases cs with
  | nil => simp [splitLines]
  | cons c cs =>
    simp only [splitLines]
    split
    · simp
    · split <;> simp

theorem joinLines_splitLines (cs : List Char) : joinLines (splitLines cs) = cs := by
  induction cs with
  | nil => rfl
  | cons c cs ih =>
    simp only [splitLines]
    split
    next h =>
      cases hs : splitLines cs with
      | nil => exact absurd hs (splitLines_ne_nil cs)
      | cons l ls => rw [hs] at ih; simp [joinLines, ih, h]
    next h =>
      cases hs : splitLines cs with
      | nil => exact absurd hs (splitLines_ne_nil cs)
      | cons l ls =>
        rw [hs] at ih
        cases ls with
        | nil => simpa [joinLines] using ih
        | cons m ms => simpa [joinLines] using ih

/-- A text whose lines all end in the same way, however they ended. -/
def unifyLineEnds : List Char → List Char
  | [] => []
  | '\r' :: '\n' :: rest => '\n' :: unifyLineEnds rest
  | c :: rest => (if c = '\r' then '\n' else c) :: unifyLineEnds rest

def mapLines (f : List Char → List Char) (cs : List Char) : List Char :=
  joinLines ((splitLines cs).map f)

/-- A line whose tab after at most three spaces is replaced by `pad n` spaces, `n` being how many
spaces stand before it. -/
def expandTab (pad : Nat → Nat) (line : List Char) : List Char :=
  let n := (line.takeWhile (· == ' ')).length
  if n ≤ 3 then
    match line.drop n with
    | '\t' :: rest => List.replicate (n + pad n) ' ' ++ rest
    | _ => line
  else line

/-- The leading tabs of the lines of a text as spaces up to a width. -/
def expandLeadingTabs (width : Nat) (cs : List Char) : List Char :=
  mapLines (expandTab (width - ·)) cs

/-- The leading tabs of the lines of a text as four spaces. -/
def widenLeadingTabs (cs : List Char) : List Char := mapLines (expandTab fun _ => 4) cs

/-- A line without at most `n` of the spaces at its head. -/
def dropSpaces : Nat → List Char → List Char
  | n + 1, ' ' :: rest => dropSpaces n rest
  | _, line => line

/-- How many columns stand between two tab stops. -/
def tabWidth : Nat := 4

/-- A line that begins at a column, with the spaces and tabs at its head as spaces that reach as far. -/
def expandHead (column : Nat) : List Char → List Char
  | ' ' :: rest => ' ' :: expandHead (column + 1) rest
  | '\t' :: rest =>
    let next := (column / tabWidth + 1) * tabWidth
    List.replicate (next - column) ' ' ++ expandHead next rest
  | line => line

end MarkTex
