import MarkTex.Text.CodePoint

/-!
# Blank characters

The characters that count as white space wherever a text is trimmed or cut into words: the Unicode
white-space characters and the four information separators U+001C to U+001F.
-/

namespace MarkTex

def isBlank (c : Char) : Bool :=
  let n := c.toNat
  (0x09 ≤ n && n ≤ 0x0D) || (0x1C ≤ n && n ≤ 0x20) || n == 0x85 || n == 0xA0 || n == 0x1680 ||
    (0x2000 ≤ n && n ≤ 0x200A) || n == 0x2028 || n == 0x2029 || n == 0x202F || n == 0x205F ||
    n == 0x3000

/-- Whether a character is one of the six ASCII blanks. -/
def isAsciiBlank (c : Char) : Bool :=
  c == ' ' || c == '\t' || c == '\n' || c == '\r' || c == '\x0b' || c == '\x0c'

/-- Every character that core calls white space is blank. -/
theorem isBlank_of_isWhitespace {c : Char} (h : c.isWhitespace = true) : isBlank c = true := by
  simp only [Char.isWhitespace, Bool.or_eq_true, decide_eq_true_eq] at h
  rcases h with ((h | h) | h) | h <;> subst h <;> decide

def CodePoint.isBlank : CodePoint → Bool
  | .scalar c => MarkTex.isBlank c
  | .surrogate _ => false

/-- A list without the elements at both ends that satisfy a test. -/
def trimEnds (p : α → Bool) (xs : List α) : List α :=
  ((xs.dropWhile p).reverse.dropWhile p).reverse

/-- What is taken off at the two ends satisfies the test. -/
theorem exists_eq_append_trimEnds (p : α → Bool) (xs : List α) :
    ∃ a b, xs = a ++ trimEnds p xs ++ b ∧ (∀ x ∈ a, p x) ∧ ∀ x ∈ b, p x := by
  have hfront : xs.takeWhile p ++ xs.dropWhile p = xs := List.takeWhile_append_dropWhile
  have hback := List.takeWhile_append_dropWhile (p := p) (l := (xs.dropWhile p).reverse)
  refine ⟨xs.takeWhile p, ((xs.dropWhile p).reverse.takeWhile p).reverse, ?_, ?_, ?_⟩
  · rw [trimEnds, List.append_assoc, ← List.reverse_append, hback, List.reverse_reverse, hfront]
  · exact List.all_eq_true.mp List.all_takeWhile
  · intro x hx
    exact List.all_eq_true.mp List.all_takeWhile x (List.mem_reverse.mp hx)

def trimBlank (cs : List Char) : List Char := trimEnds isBlank cs

/-- The words of a list of characters: its longest runs without a blank. -/
def words (cs : List Char) : List (List Char) :=
  go [] cs
where
  go (word : List Char) : List Char → List (List Char)
    | [] => if word.isEmpty then [] else [word.reverse]
    | c :: cs =>
      if isBlank c then
        if word.isEmpty then go [] cs else word.reverse :: go [] cs
      else go (c :: word) cs

namespace Text

def trim (t : Text) : Text := trimEnds CodePoint.isBlank t

def isBlank (t : Text) : Bool := t.all CodePoint.isBlank

end Text

end MarkTex
