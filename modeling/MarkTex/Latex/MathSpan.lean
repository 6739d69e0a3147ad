import MarkTex.Text.CodePoint

/-!
# Math spans

A finished document marks math by dollars: `$<$` and `$>$` for the two comparison signs, `$$…$$` for
display math and `$…$` for inline math. This module cuts a document into such spans and the code
points between them, from left to right, and gives every span the delimiters of LaTeX.

A dollar is *live* when the code point before it is no backslash. A span opens with a live dollar. It
closes at the first place where its closing delimiter stands and begins with a live dollar, and an
inline span ends on the line on which it begins. At each place a comparison sign is tried first, then
a display span, then an inline span.
-/

namespace MarkTex.Latex

/-- A stretch of dollar-delimited math. -/
inductive Span where
  | less
  | greater
  | display (body : Text)
  | inline (body : Text)
deriving DecidableEq

namespace Span

def source : Span → Text
  | less => Text.ofString "$<$"
  | greater => Text.ofString "$>$"
  | display body => Text.ofString "$$" ++ body ++ Text.ofString "$$"
  | inline body => Text.ofString "$" ++ body ++ Text.ofString "$"

def restored : Span → Text
  | less => Text.ofString "\\(<\\)"
  | greater => Text.ofString "\\(>\\)"
  | display body => Text.ofString "\\[" ++ body ++ Text.ofString "\\]"
  | inline body => Text.ofString "\\(" ++ body ++ Text.ofString "\\)"

end Span

/-- The text before the first `$$` whose first dollar is live; the flag says whether a backslash
stands before the text. -/
def displayBody? (escaped : Bool) : Text → Option Text
  | [] => none
  | c :: rest =>
    if c = .scalar '$' ∧ escaped = false ∧ rest.head? = some (.scalar '$') then some []
    else (displayBody? (c = .scalar '\\') rest).map (c :: ·)

/-- The text before the first live dollar, if no line ends before it. -/
def inlineBody? (escaped : Bool) : Text → Option Text
  | [] => none
  | c :: rest =>
    if c = .scalar '$' ∧ escaped = false then some []
    else if c = .scalar '\n' then none
    else (inlineBody? (c = .scalar '\\') rest).map (c :: ·)

/-- The span that opens with the first code point of a text, a dollar taken to be live. -/
def spanAt? : Text → Option Span
  | .scalar '$' :: rest =>
    match rest with
    | .scalar '<' :: .scalar '$' :: _ => some .less
    | .scalar '>' :: .scalar '$' :: _ => some .greater
    | .scalar '$' :: body =>
      match displayBody? false body with
      | some d => some (.display d)
      -- without an end the two dollars are a formula with nothing in it
      | none => some (.inline [])
    | _ => (inlineBody? false rest).map .inline
  | _ => none

/-- A part of a cut document. -/
inductive Piece where
  | plain (c : CodePoint)
  | span (s : Span)
deriving DecidableEq

namespace Piece

def source : Piece → Text
  | plain c => [c]
  | span s => s.source

def restored : Piece → Text
  | plain c => [c]
  | span s => s.restored

end Piece

/-- The parts of a document, with `skip` code points still to pass over because they belong to the
span found before them; the flag says whether a backslash stands before the text. -/
def piecesFrom (skip : Nat) (escaped : Bool) : Text → List Piece
  | [] => []
  | c :: rest =>
    match skip with
    | n + 1 => piecesFrom n (c = .scalar '\\') rest
    | 0 =>
      match if escaped then none else spanAt? (c :: rest) with
      | some s => .span s :: piecesFrom (s.source.length - 1) (c = .scalar '\\') rest
      | none => .plain c :: piecesFrom 0 (c = .scalar '\\') rest

def pieces (t : Text) : List Piece := piecesFrom 0 false t

/-- A document whose math spans have the delimiters of LaTeX. -/
def restoreMath (t : Text) : Text := (pieces t).flatMap Piece.restored

/-- How many display spans and how many inline spans a document holds. -/
def spanCounts (t : Text) : Nat × Nat :=
  (pieces t).foldl (fun n p =>
    match p with
    | .span (.display _) => (n.1 + 1, n.2)
    | .span (.inline _) => (n.1, n.2 + 1)
    | _ => n) (0, 0)

end MarkTex.Latex
