import MarkTex.Config.Value
import MarkTex.Error

/-!
# Options from a configuration

A configuration has a section for each kind of options, and a section an entry for each field that is to
be set. Flags given with a command take precedence over the configuration, and the configuration over the
defaults. Names that nothing knows are refused before any value is looked at.
-/

namespace MarkTex

namespace Config

/-- Whether a text comes before another, compared by code points. -/
def precedes : Text → Text → Bool
  | [], _ => true
  | _ :: _, [] => false
  | a :: as, b :: bs => a.toNat < b.toNat || (a.toNat = b.toNat && precedes as bs)

def keyName? : Value → Option Text
  | .str t => some t
  | _ => none

/-- Whether one key comes before another as a number. -/
def numberPrecedes (a b : Value) : Bool :=
  match a, b with
  | .float x, .float y => x ≤ y
  | .float x, b => (b.keyNumber?).any fun n => x ≤ Float.ofInt n
  | a, .float y => (a.keyNumber?).any fun n => Float.ofInt n ≤ y
  | a, b =>
    match a.keyNumber?, b.keyNumber? with
    | some m, some n => m ≤ n
    | _, _ => true

def isNumber : Value → Bool
  | .bool _ => true
  | .int _ => true
  | .float _ => true
  | _ => false

/-- Keys as names in order. Keys that are no names cannot be listed, and keys of different types cannot
be put in order. -/
def sortedNames (keys : List Value) : Except Fault (List Text) :=
  match keys.mapM keyName? with
  | some names => .ok (names.mergeSort precedes)
  | none =>
    match keys with
    | [] => .ok []
    | [k] => .error (.keyNotText 0 k.typeName)
    | a :: b :: _ =>
      -- numbers can be put in order, and then the first of them is told
      if keys.all isNumber then
        .error (.keyNotText 0 (((keys.mergeSort numberPrecedes).headD a).typeName))
      else .error (.unorderedKeys b.typeName a.typeName)

/-- The names of the sections, in the order in which they are read. -/
def sectionNames : List String := ["markdown", "latex"]

/-- The keys that are none of some names. -/
def unknownKeys (known : List String) (entries : List (Value × Value)) : List Value :=
  (entries.map (·.1)).filter fun k => !known.any fun n => keyName? k = some (Text.ofString n)

/-- Refuses entries under keys that are none of some names. -/
def refuseUnknown (known : List String) (fault : List Text → ConfigFault)
    (entries : List (Value × Value)) : Except Error Unit := do
  let unknown ← (sortedNames (unknownKeys known entries)).mapError .beneath
  if !unknown.isEmpty then throw (.config (fault unknown))

def settingOf? : Value → Option Setting
  | .bool b => some (.flag b)
  | .str t => some (.text t)
  | _ => none

/-- A value as a setting of the type that the default of a field has. -/
def settingFor (table : String) (field : Field σ) (defaults : σ) (v : Value) :
    Except ConfigFault Setting :=
  let expected := (field.get defaults).typeName
  match settingOf? v with
  | some s =>
    if s.typeName = expected then .ok s
    else .error (.wrongType table field.name expected v.typeName)
  | none => .error (.wrongType table field.name expected v.typeName)

/-- The entries of a section; a section that is not there has none. -/
def sectionEntries (entries : List (Value × Value)) (table : String) :
    Except ConfigFault (List (Value × Value)) :=
  match Value.get? entries table with
  | none => .ok []
  | some (.dict es) => .ok es
  | some v => .error (.notTable table v.typeName)

/-- What an entry of a section sets: the field of the name of its key. -/
def settingEntry (table : String) (fields : List (Field σ)) (defaults : σ) (e : Value × Value) :
    Except Error (Option (String × Setting)) :=
  match fields.find? fun f => keyName? e.1 = some (Text.ofString f.name) with
  | none => return none
  | some f => do
    let s ← (settingFor table f defaults e.2).mapError .config
    return some (f.name, s)

/-- The settings of a section by the names of their fields. -/
def sectionSettings (entries : List (Value × Value)) (table : String) (fields : List (Field σ))
    (defaults : σ) : Except Error (List (String × Setting)) := do
  let es ← (sectionEntries entries table).mapError .config
  refuseUnknown (fields.map (·.name)) (.unknownNames table) es
  es.filterMapM (settingEntry table fields defaults)

/-- The options of a section with flags laid over them, if they can be used. -/
def sectionOptions (entries : List (Value × Value)) (flags : List (String × Bool)) (table : String)
    (fields : List (Field σ)) (defaults : σ) (check : σ → Except OptionFault σ) : Except Error σ := do
  let settings ← sectionSettings entries table fields defaults
  let given := flags.map fun f => (f.1, Setting.flag f.2)
  (check (Field.overlay fields (given ++ settings) defaults)).mapError fun f =>
    .config (.badValue table f)

/-- The options of the reader and the writer from a configuration and flags. -/
def options (entries : List (Value × Value)) (flags : List (String × Bool)) :
    Except Error (Markdown.ParseOptions × Latex.RenderOptions) := do
  refuseUnknown sectionNames .unknownSections entries
  let reader ← sectionOptions entries flags "markdown" Markdown.ParseOptions.fields {}
    Markdown.ParseOptions.check
  let writer ← sectionOptions entries flags "latex" Latex.RenderOptions.fields {}
    Latex.RenderOptions.check
  return (reader, writer)

end Config

end MarkTex
