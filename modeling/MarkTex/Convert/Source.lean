import MarkTex.Document.OfTokens
import MarkTex.Document.Place
import MarkTex.Host.FileAccess
import MarkTex.Markdown.BlockReader

/-!
# Sources

A document comes as text, as bytes, from an open stream, or from the file at a path. A short text of
one line that names a file stands for that file.
-/

namespace MarkTex

inductive StreamContent where
  | bytes (bs : List UInt8)
  /-- A text, or something else by the text that it is shown as. -/
  | text (t : Text)

/-- Where a document comes from. -/
inductive Source where
  | text (t : Text)
  | path (p : Path)
  | bytes (bs : List UInt8)
  | stream (content : StreamContent)
  /-- Something that is no source, by the name of its type. -/
  | other (typeName : String)

namespace Source

/-- The longest text that may be a path. -/
def pathBound : Nat := 260

def path? (t : Text) : Option Path :=
  if t.length ≤ pathBound ∧ !t.contains (.scalar '\n') then t.chars?.map Path.ofChars else none

def load (s : Source) (encoding : Text) : Action Text := do
  match s with
  | bytes bs => Action.decodeText bs encoding
  | path p => Action.readText p encoding
  | text t =>
    match path? t with
    | none => return t
    | some p =>
      match (← get).isFile p with
      | .ok true =>
        Action.note "md2tex.parsers.base"
          (Text.ofString ("Treating string input as file path: " ++ p.toString))
        Action.readText p encoding
      -- a name that cannot be looked up names no file
      | _ => return t
  | stream (.bytes bs) => Action.decodeText bs encoding
  | stream (.text t) => return t
  | other typeName => throw (.unsupportedSource typeName)

end Source

namespace Action

/-- Fails unless all that a component needs is at hand. -/
def require (component : String) (rs : List Package.Requirement)
    (k : Package.Packaging := .standard) : Action Unit := do
  match Package.unmet k (← get).inventory component rs with
  | .error f => failBeneath (.badVersion f)
  | .ok u => if u.isEmpty then return else throw (.unmet u)

/-- A method of a component that is called only if all that the component needs is at hand. -/
def requiring (k : Package.Packaging) (component : String) (rs : List Package.Requirement)
    (method : α → Action β) (a : α) : Action β := do
  require component rs k
  method a

/-- A number that is too long is a failure in a fragment as it is in a document. A lone surrogate is read
as U+FFFD; what is decoded from bytes holds none. -/
def readFragment : Text → Action (List Node) :=
  requiring .standard "html" Package.htmlRequirements fun t => do
    match Html.Fragment.read t.toChars with
    | .error (.longNumber count) => failBeneath (.configValue (.longNumber ⟨count⟩))
    | .error why => failBeneath (.rejectedMarkup why)
    | .ok f =>
      for r in f.remarks do note "md2tex.parsers.html" r.message
      return f.nodes

/-- Fragments are read on the host, and remarks go to its log. -/
def reading : Markdown.Reading Action where
  fragment := readFragment
  remark r := note "md2tex.parsers.markdown" r.message

def extensions (o : Markdown.ParseOptions) : List String :=
  (if o.parseStrikethrough then ["strikethrough"] else []) ++
    (if o.parseTables then ["table"] else []) ++ (if o.parseMath then ["math"] else [])

/-- The document of tokens, unless a reference in a text of theirs has a number that is too long. -/
def documentOf (o : Markdown.ParseOptions) (ts : List Markdown.Token) : Action Node :=
  match Markdown.longReference? ts with
  | some count => failBeneath (.configValue (.longNumber ⟨count⟩))
  | none => Markdown.document reading o ts

/-- The document of a source. A lone surrogate is read as U+FFFD; what is decoded from bytes holds
none. -/
def readDocument (o : Markdown.ParseOptions) : Source → Action Node :=
  requiring .standard "markdown" Package.markdownRequirements fun s => do
    let t ← s.load o.encoding
    let n ← timed "md2tex.parsers.markdown" "Parsing (markdown)"
      (documentOf o (Markdown.tokens o t.toChars))
    let names := (extensions o).map fun e => "'" ++ e ++ "'"
    note "md2tex.parsers.markdown" (Text.ofString ("Parsed " ++ toString n.children.length ++
      " top-level nodes with plugins [" ++ ", ".intercalate names ++ "]"))
    return n

end Action

end MarkTex
