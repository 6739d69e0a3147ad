import MarkTex.Host.FileAccess
import MarkTex.Latex.Render

/-!
# Output

LaTeX is written to the file at a path or to an open stream of bytes or of text. Nothing is opened
before the whole of it is there.
-/

namespace MarkTex

/-- What a stream takes. -/
inductive StreamKind where
  | bytes
  | text
  /-- A stream known only by the mode that it says it was opened in, if it says so. -/
  | declared (mode : Option Text)

/-- Whether a stream takes bytes. A mode with a `b` in it means so. -/
def StreamKind.isBinary : StreamKind → Bool
  | bytes => true
  | text => false
  | declared mode => mode.any (·.contains (.scalar 'b'))

/-- Where output goes. -/
inductive Destination where
  | path (p : Path)
  | stream (kind : StreamKind)
  /-- Something that takes no output, by the name of its type. -/
  | other (typeName : String)

inductive Chunk where
  | bytes (bs : List UInt8)
  | text (t : Text)

namespace Action

/-- Writes a text, and gives what the stream takes if there is one. -/
def deliver (content : Text) : Destination → Action (Option Chunk)
  | .path p => do
    writeText content p
    return none
  | .stream kind =>
    if kind.isBinary then do
      let bs ← encodeText content
      return some (.bytes bs)
    else return some (.text content)
  | .other typeName => failBeneath (.unsupportedOutput typeName)

/-- The LaTeX of a document, its math spans with the delimiters of LaTeX if the options say so. -/
def renderDocument (o : Latex.RenderOptions) (n : Node) : Action Text :=
  timed "md2tex.renderers.latex" "Rendering (latex)" do
    for _ in List.range (Latex.emptyTables n) do
      note "md2tex.renderers.latex" (Text.ofString "Rendering table without rows")
    if o.restoreMath then
      let (display, inner) := Latex.spanCounts (Latex.render o n)
      if 0 < display + inner then
        note "md2tex.utils.math_spans" (Text.ofString ("Restored " ++ toString display ++
          " display and " ++ toString inner ++ " inline math spans"))
    return Latex.renderDocument o n

def renderTo (o : Latex.RenderOptions) (n : Node) (d : Destination) : Action (Option Chunk) := do
  deliver (← renderDocument o n) d

end Action

end MarkTex
