import MarkTex.Encoding.Codec
import MarkTex.Latex.Options
import MarkTex.Markdown.Options
import MarkTex.Text.Quoted

/-!
# Fields of options

An option is a switch or a text. The fields of a set of options are listed once, with a way to read
and to change each, so that options can be shown, checked and overlaid by the names of their fields.
-/

namespace MarkTex

inductive Setting where
  | flag (b : Bool)
  | text (t : Text)
deriving DecidableEq

def Setting.typeName : Setting → String
  | flag _ => "bool"
  | text _ => "str"

/-- A field of a set of options. A setting of another type than the field's changes nothing. -/
structure Field (σ : Type) where
  name : String
  get : σ → Setting
  set : Setting → σ → σ

namespace Field

def ofFlag (name : String) (get : σ → Bool) (set : Bool → σ → σ) : Field σ where
  name := name
  get o := .flag (get o)
  set v o :=
    match v with
    | .flag b => set b o
    | .text _ => o

def ofText (name : String) (get : σ → Text) (set : Text → σ → σ) : Field σ where
  name := name
  get o := .text (get o)
  set v o :=
    match v with
    | .text t => set t o
    | .flag _ => o

/-- The options with the setting for a field, if there is one. -/
def assign (settings : List (String × Setting)) (o : σ) (f : Field σ) : σ :=
  match settings.find? (·.1 = f.name) with
  | some s => f.set s.2 o
  | none => o

/-- The options with settings put into the fields of those names. -/
def overlay (fields : List (Field σ)) (settings : List (String × Setting)) (o : σ) : σ :=
  fields.foldl (assign settings) o

end Field

def Markdown.ParseOptions.fields : List (Field Markdown.ParseOptions) :=
  [.ofText "encoding" (·.encoding) fun t o => { o with encoding := t },
   .ofFlag "parse_tables" (·.parseTables) fun b o => { o with parseTables := b },
   .ofFlag "parse_math" (·.parseMath) fun b o => { o with parseMath := b },
   .ofFlag "parse_strikethrough" (·.parseStrikethrough) fun b o => { o with parseStrikethrough := b },
   .ofFlag "parse_html" (·.parseHtml) fun b o => { o with parseHtml := b },
   .ofText "block_separator" (·.blockSeparator) fun t o => { o with blockSeparator := t }]

def Latex.RenderOptions.fields : List (Field Latex.RenderOptions) :=
  [.ofFlag "escape_special" (·.escapeSpecial) fun b o => { o with escapeSpecial := b },
   .ofFlag "restore_math" (·.restoreMath) fun b o => { o with restoreMath := b },
   .ofText "figure_placement" (·.figurePlacement) fun t o => { o with figurePlacement := t },
   .ofText "image_width" (·.imageWidth) fun t o => { o with imageWidth := t },
   .ofText "table_placement" (·.tablePlacement) fun t o => { o with tablePlacement := t },
   .ofText "column_spec" (·.columnSpec) fun t o => { o with columnSpec := t }]

/-- A value that an option cannot have. -/
inductive OptionFault where
  | unknownEncoding (name : Text)
  | encodingName (fault : Encoding.NameFault)
  | render (fault : Latex.RenderOptions.Fault)
deriving DecidableEq

def OptionFault.message : OptionFault → String
  | unknownEncoding name => "Unknown encoding: " ++ quoted name
  | encodingName fault => fault.message
  | render fault => fault.message

/-- The options of the Markdown reader, if they can be used: the encoding has to be known. -/
def Markdown.ParseOptions.check (o : Markdown.ParseOptions) :
    Except OptionFault Markdown.ParseOptions :=
  match Encoding.Codec.named? o.encoding with
  | .error f => .error (.encodingName f)
  | .ok none => .error (.unknownEncoding o.encoding)
  | .ok (some _) => .ok o

/-- The options of the LaTeX writer, if they can be used. -/
def Latex.RenderOptions.check (o : Latex.RenderOptions) : Except OptionFault Latex.RenderOptions :=
  match o.fault? with
  | some f => .error (.render f)
  | none => .ok o

end MarkTex
