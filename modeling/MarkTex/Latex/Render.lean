import MarkTex.Document.Node
import MarkTex.Latex.Escape
import MarkTex.Latex.MathSpan
import MarkTex.Latex.Options

/-!
# Writing a document as LaTeX

Every node has a LaTeX text that depends on nothing but the node and the options. Headings, links,
inline code and table cells use the trimmed and escaped text of all leaves below them, which drops
nested markup; paragraphs, list items and emphasis use the LaTeX of their children, which keeps it.
Text that stands directly in a list, or in a row of a table, is dropped.

How literal text and math stand in the LaTeX is a parameter, the *marking*: `renderWith` writes a
node under any marking and `render` writes it with math between dollars. `renderDocument` writes a
whole document and then gives its math spans the delimiters of LaTeX.
-/

namespace MarkTex.Latex

def braced (t : Text) : Text := Text.ofString "\x7b" ++ t ++ Text.ofString "\x7d"

def bracketed (t : Text) : Text := Text.ofString "[" ++ t ++ Text.ofString "]"

def command (name : String) (argument : Text) : Text :=
  Text.ofString ("\\" ++ name) ++ braced argument

/-- A text between the commands that open and close an environment. -/
def enclosed (name : String) (body : Text) : Text :=
  command "begin" (Text.ofString name) ++ body ++ command "end" (Text.ofString name)

/-- A text on lines of its own between the commands that open and close an environment. -/
def environment (name : String) (body : Text) : Text :=
  enclosed name (Text.ofString "\n" ++ body ++ Text.ofString "\n")

def lines (ls : List Text) : Text := Text.join (Text.ofString "\n") ls

def RenderOptions.escape (o : RenderOptions) (t : Text) : Text :=
  if o.escapeSpecial then Latex.escape t else t

/-- How literal text and math stand in a LaTeX text. -/
structure Marking where
  /-- A text that is to be read as it stands. -/
  literal : Text → Text
  /-- Math in a line of text. -/
  inlineMath : Text → Text
  /-- Math on lines of its own. -/
  displayMath : Text → Text

/-- The marking of a rendered node: special characters are replaced if the options ask for it, and
math stands between dollars. -/
def RenderOptions.dollars (o : RenderOptions) : Marking where
  literal := o.escape
  inlineMath m := (Span.inline m).source
  displayMath d := (Span.display d).source

/-- The text of all leaves of a node, trimmed and marked as literal. -/
def Marking.content (m : Marking) (n : Node) : Text := m.literal n.textContent.trim

def headingCommand? : ElementKind → Option String
  | .heading1 => some "chapter"
  | .heading2 => some "section"
  | .heading3 => some "subsection"
  | .heading4 => some "subsubsection"
  | _ => none

def listEnvironment : ElementKind → String
  | .orderedList => "enumerate"
  | _ => "itemize"

/-- The command that sets the image at a path. -/
def graphics (o : RenderOptions) (path : Text) : Text :=
  Text.ofString "\\includegraphics" ++ bracketed (Text.ofString "width=" ++ o.imageWidth) ++
    braced path

/-- An image as a centred figure. The label is there only when the image has a description. -/
def figure (m : Marking) (o : RenderOptions) (attrs : Attributes) : Text :=
  let alt := attrs.get "alt" []
  lines (
    [command "begin" (Text.ofString "figure") ++ bracketed o.figurePlacement,
     Text.ofString "\\centering",
     graphics o (attrs.get "src" [])] ++
    (if alt.isEmpty then [] else [command "label" (m.literal alt)]) ++
    [command "end" (Text.ofString "figure")])

/-- The rows of a table, each the list of its cells' texts. -/
def tableRows (m : Marking) (n : Node) : List (List Text) :=
  (n.findAll .tableRow).map fun row => row.elementChildren.map m.content

/-- A table whose first row is the head. The number of columns is that of the head; rows of another
length stay as they are. -/
def tableFloat (o : RenderOptions) (rows : List (List Text)) : Text :=
  let head := rows.headD []
  let row := Text.join (Text.ofString " & ")
  lines
    [command "begin" (Text.ofString "table") ++ bracketed o.tablePlacement,
     Text.ofString "\\centering",
     command "begin" (Text.ofString "tabular") ++
        braced (List.replicate head.length o.columnSpec).flatten,
     Text.ofString "\\hline",
     row head ++ Text.ofString " \\\\",
     Text.ofString "\\hline",
     Text.join (Text.ofString " \\\\\n") (rows.tail.map row) ++ Text.ofString " \\\\",
     Text.ofString "\\hline",
     command "end" (Text.ofString "tabular"),
     command "end" (Text.ofString "table")]

/-- The LaTeX of an element under a rule, given the LaTeX of each of its children. -/
def writeBy (m : Marking) (o : RenderOptions) (h : Handler) (kind : ElementKind)
    (attrs : Attributes) (children : List Node) (rendered : List Text) : Text :=
  let whole := Node.element kind kind.tag attrs children
  match h with
  | .heading =>
    match headingCommand? kind with
    | some name => command name (m.content whole)
    | none => rendered.flatten
  | .list =>
    environment (listEnvironment kind)
      (lines (((children.zip rendered).filter (·.1.isElement)).map (·.2)))
  | .listItem => Text.ofString "\\item " ++ rendered.flatten
  | .paragraph => rendered.flatten ++ Text.ofString "\n\n"
  | .bold => command "textbf" rendered.flatten
  | .italic => command "textit" rendered.flatten
  | .inlineCode => command "texttt" (m.content whole)
  | .link =>
    let images := whole.findAll .image
    let label :=
      if images.isEmpty then m.content whole
      else lines (images.map fun image => figure m o image.attributes)
    command "href" (attrs.get "href" []) ++ braced label
  | .image => figure m o attrs
  | .table => tableFloat o (tableRows m whole)
  | .codeBlock => environment "verbatim" whole.textContent
  | .mathInline => m.inlineMath whole.textContent
  | .mathBlock => m.displayMath whole.textContent
  | .tableRow | .tableCell | .generic => rendered.flatten

mutual

/-- The LaTeX of a node under a marking. -/
def renderWith (m : Marking) (o : RenderOptions) : Node → Text
  | .text content => m.literal content
  | .element kind _ attrs children =>
    writeBy m o kind.handler kind attrs children (renderEach m o children)

def renderEach (m : Marking) (o : RenderOptions) : List Node → List Text
  | [] => []
  | n :: ns => renderWith m o n :: renderEach m o ns

end

/-- The LaTeX of a node, its math between dollars. -/
def render (o : RenderOptions) (n : Node) : Text := renderWith o.dollars o n

/-- The LaTeX of a list of nodes, one after the other. -/
def renderAll (o : RenderOptions) (ns : List Node) : Text := (renderEach o.dollars o ns).flatten

/-- The LaTeX of a node under a rule that may not be that of its kind. A leaf is under no rule. -/
def renderAs (o : RenderOptions) (h : Handler) : Node → Text
  | .text content => o.escape content
  | .element kind _ attrs children =>
    writeBy o.dollars o h kind attrs children (renderEach o.dollars o children)

/-- The LaTeX of a whole document. Its math spans have the delimiters of LaTeX unless the options
forbid it. -/
def renderDocument (o : RenderOptions) (n : Node) : Text :=
  if o.restoreMath then Latex.restoreMath (render o n) else render o n

mutual

/-- How many tables without rows are written while a node is. -/
def emptyTables : Node → Nat
  | .text _ => 0
  | .element kind tag attrs children =>
    match kind with
    | .heading1 | .heading2 | .heading3 | .heading4 | .inlineCode | .link | .image | .codeBlock
    | .mathInline | .mathBlock => 0
    | .table =>
      if ((Node.element kind tag attrs children).findAll .tableRow).isEmpty then 1 else 0
    | _ => emptyTablesIn children

def emptyTablesIn : List Node → Nat
  | [] => 0
  | n :: ns => emptyTables n + emptyTablesIn ns

end

theorem renderEach_eq_map (m : Marking) (o : RenderOptions) (ns : List Node) :
    renderEach m o ns = ns.map (renderWith m o) := by
  induction ns with
  | nil => rfl
  | cons n ns ih => simp [renderEach, ih]

end MarkTex.Latex
