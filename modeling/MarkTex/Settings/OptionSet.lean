import MarkTex.Settings.Field

/-!
# Sets of options

A caller hands over options of some kind. The reader of documents takes those of its own kind only,
and so does the writer.
-/

namespace MarkTex

/-- A kind of options. The base kinds have no fields. -/
inductive OptionKind where
  | markdown
  | latex
  | parserBase
  | rendererBase
deriving DecidableEq

def OptionKind.name : OptionKind → String
  | markdown => "MarkdownParserOptions"
  | latex => "LatexRendererOptions"
  | parserBase => "BaseParserOptions"
  | rendererBase => "BaseRendererOptions"

def OptionKind.fieldNames : OptionKind → List String
  | markdown => Markdown.ParseOptions.fields.map (·.name)
  | latex => Latex.RenderOptions.fields.map (·.name)
  | parserBase => []
  | rendererBase => []

inductive OptionSet where
  | markdown (o : Markdown.ParseOptions)
  | latex (o : Latex.RenderOptions)
  | parserBase
  | rendererBase

inductive OptionSetFault where
  | unknownField (kind : OptionKind) (name : Text)
  | value (fault : OptionFault)

def OptionSetFault.message : OptionSetFault → Text
  | unknownField kind name =>
    Text.ofString (kind.name ++ ".__init__() got an unexpected keyword argument '") ++ name ++
      Text.ofString "'"
  | value fault => Text.ofString fault.message

namespace OptionSet

/-- The options of a kind with all fields at their defaults. -/
def initial : OptionKind → OptionSet
  | .markdown => markdown {}
  | .latex => latex {}
  | .parserBase => parserBase
  | .rendererBase => rendererBase

def kind : OptionSet → OptionKind
  | markdown _ => .markdown
  | latex _ => .latex
  | parserBase => .parserBase
  | rendererBase => .rendererBase

def settings : OptionSet → List (String × Setting)
  | markdown o => Markdown.ParseOptions.fields.map fun f => (f.name, f.get o)
  | latex o => Latex.RenderOptions.fields.map fun f => (f.name, f.get o)
  | parserBase => []
  | rendererBase => []

/-- The options with new settings. All names are looked at before any setting is. -/
def update (s : OptionSet) (new : List (Text × Setting)) : Except OptionSetFault OptionSet :=
  let known := s.kind.fieldNames
  match new.find? fun e => !known.any fun n => Text.ofString n == e.1 with
  | some e => .error (.unknownField s.kind e.1)
  | none =>
    let new := new.map fun e => (e.1.toString, e.2)
    match s with
    | markdown o => ((Field.overlay Markdown.ParseOptions.fields new o).check.mapError .value).map
        markdown
    | latex o => ((Field.overlay Latex.RenderOptions.fields new o).check.mapError .value).map latex
    | parserBase => .ok parserBase
    | rendererBase => .ok rendererBase

end OptionSet

end MarkTex
