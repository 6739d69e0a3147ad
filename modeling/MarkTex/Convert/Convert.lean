import MarkTex.Convert.Output
import MarkTex.Convert.Source

/-!
# Conversion

A source is read, its document written as LaTeX, and the LaTeX returned or sent where it is to go.
Options of the wrong kind are refused before anything is read, those of the writer first.
-/

namespace MarkTex

/-- The options of the reader in a set of options. Without a set they are the defaults. -/
def OptionSet.forReader? : Option OptionSet → Except Error Markdown.ParseOptions
  | none => .ok {}
  | some (.markdown o) => .ok o
  | some s => .error (.foreignOptions "markdown" .markdown s.kind)

def OptionSet.forWriter? : Option OptionSet → Except Error Latex.RenderOptions
  | none => .ok {}
  | some (.latex o) => .ok o
  | some s => .error (.foreignOptions "latex" .latex s.kind)

namespace Action

def toDocument (s : Source) (parserOptions : Option OptionSet) : Action Node := do
  let o ← OptionSet.forReader? parserOptions
  readDocument o s

def toLatex (s : Source) (parserOptions rendererOptions : Option OptionSet) : Action Text := do
  let r ← OptionSet.forWriter? rendererOptions
  let n ← toDocument s parserOptions
  renderDocument r n

/-- What a conversion gives: the LaTeX itself if it has nowhere to go, else what a stream was given if
there is one. -/
inductive Converted where
  | latex (t : Text)
  | sent (chunk : Option Chunk)

def destinationName : Destination → String
  | .path p => p.toString
  | .stream _ => "a stream"
  | .other typeName => typeName

def convert (s : Source) (d : Option Destination) (parserOptions rendererOptions : Option OptionSet) :
    Action Converted := do
  let latex ← toLatex s parserOptions rendererOptions
  match d with
  | none => return .latex latex
  | some d =>
    let chunk ← deliver latex d
    note "md2tex.api" (Text.ofString ("Wrote LaTeX output to " ++ destinationName d))
    return .sent chunk

end Action

def outputSuffix : String := ".tex"

/-- Where the output for an input goes if nothing else is said. -/
def defaultOutput (input : Path) : Except Error Path :=
  match input.withSuffix? outputSuffix with
  | some p => .ok p
  | none => .error (.beneath (.noName input))

end MarkTex
