import MarkTex.Text.Blank

/-!
# Options of the LaTeX writer
-/

namespace MarkTex.Latex

/-- How a document is written as LaTeX. -/
structure RenderOptions where
  /-- Replace the characters that are special to LaTeX in text leaves. -/
  escapeSpecial : Bool := true
  /-- Give dollar-delimited math in the finished output the delimiters of LaTeX. -/
  restoreMath : Bool := true
  figurePlacement : Text := Text.ofString "h"
  imageWidth : Text := Text.ofString "1\\textwidth"
  tablePlacement : Text := Text.ofString "h"
  /-- Column specifier, repeated once for each cell of a table's first row. -/
  columnSpec : Text := Text.ofString " c "
deriving DecidableEq

/-- A fault in the options of the writer. -/
inductive RenderOptions.Fault where
  | emptyColumnSpec
  | emptyImageWidth
deriving DecidableEq

namespace RenderOptions

/-- What is wrong with a set of options, the column specifier looked at first. -/
def fault? (o : RenderOptions) : Option Fault :=
  if o.columnSpec.isBlank then some .emptyColumnSpec
  else if o.imageWidth.isBlank then some .emptyImageWidth
  else none

def Fault.message : Fault → String
  | .emptyColumnSpec => "column_spec must not be empty"
  | .emptyImageWidth => "image_width must not be empty"

end RenderOptions

end MarkTex.Latex
