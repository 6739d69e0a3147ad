import MarkTex.Style.Markup
import MarkTex.Text.Width

/-!
# Panels

A panel is a frame around a text, with a title in its upper edge and a subtitle in its lower edge. It is
as wide as its text asks for, but no wider than the terminal; longer lines are wrapped between words, and
a word that fits on no line is cut.
-/

namespace MarkTex.Style

/-- The words of a line, each with the blanks after it; the first has the blanks before it too. -/
def wordsOf (line : Text) : List Text :=
  let blanks := line.takeWhile CodePoint.isBlank
  match go (line.drop blanks.length) with
  | [] => []
  | w :: ws => (blanks ++ w) :: ws
where
  go (t : Text) : List Text :=
    match t with
    | [] => []
    | c :: rest =>
      let word := rest.takeWhile fun c => !c.isBlank
      let blanks := (rest.drop word.length).takeWhile CodePoint.isBlank
      (c :: word ++ blanks) :: go (rest.drop (word.length + blanks.length))
  termination_by t.length
  decreasing_by simp only [List.length_drop, List.length_cons]; omega

def trimRight (t : Text) : Text := (t.reverse.dropWhile CodePoint.isBlank).reverse

/-- A word cut into pieces of at most a width. -/
def pieces (width : Nat) : Text → Text → List Text
  | acc, [] => [acc.reverse]
  | acc, c :: rest =>
    if width < Text.width acc + c.width then acc.reverse :: pieces width [c] rest
    else pieces width (c :: acc) rest

/-- The lines of words; `line` is the line begun. -/
def fillLines (width : Nat) : Text → List Text → List Text
  | line, [] => [line]
  | line, w :: ws =>
    let need := Text.width (trimRight w)
    if Text.width line + need ≤ width then fillLines width (line ++ w) ws
    else if width < need then
      let cut := pieces width [] w
      let before := if line.isEmpty then [] else [line]
      before ++ cut.dropLast ++ fillLines width (cut.getLastD []) ws
    else if line.isEmpty then fillLines width w ws
    else line :: fillLines width w ws

/-- As many characters of a text as fit into a width. -/
def fitting (width : Nat) : Text → Text
  | [] => []
  | c :: rest => if c.width ≤ width then c :: fitting (width - c.width) rest else []

/-- A text of exactly a width: cut, or filled up with spaces. -/
def sized (width : Nat) (t : Text) : Text :=
  let kept := fitting width t
  kept ++ List.replicate (width - Text.width kept) (.scalar ' ')

/-- A line without as many of the blanks at its end as are too many. -/
def cropBlanks (width : Nat) (line : Text) : Text :=
  let blanks := line.length - (trimRight line).length
  line.take (line.length - min blanks (line.length - width))

def splitRows (t : Text) : List Text :=
  match t with
  | [] => [[]]
  | c :: rest =>
    if c = .scalar '\n' then [] :: splitRows rest
    else
      match splitRows rest with
      | [] => [[c]]
      | l :: ls => (c :: l) :: ls

def tabStop : Nat := 8

/-- A row with spaces in place of its tabs, each as far as the next tab stop; `column` is the column of
its head. -/
def expandTabs (column : Nat) : Text → Text
  | [] => []
  | c :: rest =>
    if c = .scalar '\t' then
      let next := (column / tabStop + 1) * tabStop
      List.replicate (next - column) (.scalar ' ') ++ expandTabs next rest
    else c :: expandTabs (column + c.width) rest

/-- A heading in the middle of an edge of a width; a heading that is too long is cut. -/
def edge (left right : Char) (width : Nat) (heading : Text) : Text :=
  let shown := if width < Text.width heading then sized width heading else heading
  let excess := width - Text.width shown
  let bar (n : Nat) : Text := List.replicate n (CodePoint.scalar '─')
  [CodePoint.scalar left] ++ bar (excess / 2 + 1) ++ shown ++ bar (excess - excess / 2 + 1) ++
    [CodePoint.scalar right]

/-- Whether a character steers a terminal instead of being shown on it. -/
def isControl (c : CodePoint) : Bool :=
  let n := c.toNat
  n = 7 || n = 8 || n = 11 || n = 12 || n = 13

/-- A panel of a text on a terminal with a number of columns. -/
def panel (columns : Nat) (title subtitle : Text) (body : Text) : Text :=
  let space := [CodePoint.scalar ' ']
  let title := space ++ title ++ space
  let subtitle := space ++ subtitle ++ space
  let rows := splitRows (body.filter fun c => !isControl c)
  let widest := (rows.map Text.width).foldl max 0
  let inner := min (columns - 2) (max (min (widest + 2) (columns - 2)) (Text.width title + 2))
  let room := inner - 2
  let lines := rows.flatMap fun row =>
    (fillLines room [] (wordsOf (expandTabs 0 row))).map (cropBlanks room)
  let framed := lines.map fun line =>
    Text.ofString "│ " ++ sized room line ++ Text.ofString " │\n"
  edge '╭' '╮' (inner - 2) title ++ Text.ofString "\n" ++ framed.flatten ++
    edge '╰' '╯' (inner - 2) subtitle ++ Text.ofString "\n"

end MarkTex.Style
