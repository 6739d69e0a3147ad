/-!
# Code points and text

A text is a sequence of code points. Most code points are characters; the rest are surrogates that
stand alone. No document in a Unicode encoding holds such a surrogate, but a numeric character
reference in markup or an escape in a configuration file can name one, and it then travels through
the tree as far as the writer, which refuses it.
-/

namespace MarkTex

/-- A code point: a Unicode scalar value, or a surrogate that stands alone, counted from U+D800. -/
inductive CodePoint where
  | scalar (c : Char)
  | surrogate (offset : Fin 2048)
deriving DecidableEq

namespace CodePoint

def toNat : CodePoint → Nat
  | scalar c => c.toNat
  | surrogate k => 0xD800 + k

/-- The code point with a given number; `none` beyond U+10FFFF. -/
def ofNat? (n : Nat) : Option CodePoint :=
  if h : n.isValidChar then some (scalar (Char.ofNatAux n h))
  else if h : 0xD800 ≤ n ∧ n < 0xE000 then some (surrogate ⟨n - 0xD800, by omega⟩)
  else none

/-- The character of a code point that is one. -/
def char? : CodePoint → Option Char
  | scalar c => some c
  | surrogate _ => none

instance : Coe Char CodePoint := ⟨scalar⟩

end CodePoint

abbrev Text := List CodePoint

namespace Text

def ofChars (cs : List Char) : Text := cs.map .scalar

def ofString (s : String) : Text := ofChars s.toList

instance : Coe String Text := ⟨ofString⟩

/-- The characters of a text that holds no lone surrogate. -/
def chars? (t : Text) : Option (List Char) := t.mapM CodePoint.char?

/-- The characters of a text, every lone surrogate replaced by U+FFFD. -/
def toChars (t : Text) : List Char := t.map fun c => c.char?.getD '\uFFFD'

/-- The text as a string, every lone surrogate replaced by U+FFFD. -/
def toString (t : Text) : String := String.ofList t.toChars

/-- The parts one after the other, with a separator between each two. -/
def join (separator : Text) : List Text → Text
  | [] => []
  | [t] => t
  | t :: rest => t ++ separator ++ join separator rest

/-- The characters before the first lone surrogate, then each lone surrogate with the characters
behind it. -/
def runs : Text → List Char × List (Fin 2048 × List Char)
  | [] => ([], [])
  | .scalar c :: t => let (cs, rs) := runs t; (c :: cs, rs)
  | .surrogate k :: t => let (cs, rs) := runs t; ([], (k, cs) :: rs)

/-- The text with each run of characters rewritten on its own. The lone surrogates stay where they
are. -/
def mapRuns (f : List Char → List Char) (t : Text) : Text :=
  ofChars (f t.runs.1) ++ t.runs.2.flatMap fun (k, cs) => .surrogate k :: ofChars (f cs)

/-- Every occurrence of a character replaced by a text. -/
def replace (t : Text) (c : Char) (r : Text) : Text :=
  t.flatMap fun x => if x = .scalar c then r else [x]

theorem replace_append (a b : Text) (c : Char) (r : Text) :
    (a ++ b).replace c r = a.replace c r ++ b.replace c r := by
  simp [replace]

/-- Reading back the characters of a text made of characters gives them. -/
theorem chars?_ofChars (cs : List Char) : chars? (ofChars cs) = some cs := by
  induction cs with
  | nil => rfl
  | cons c cs ih =>
    simp only [chars?, ofChars, List.map_cons, List.mapM_cons] at ih ⊢
    simp [CodePoint.char?, ih]

theorem mapRuns_id (t : Text) : t.mapRuns id = t := by
  induction t with
  | nil => rfl
  | cons c t ih => cases c <;> simpa [mapRuns, runs, ofChars] using ih

end Text

end MarkTex
