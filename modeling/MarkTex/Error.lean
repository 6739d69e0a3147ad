import MarkTex.Config.Yaml.Reading
import MarkTex.Encoding.Decode
import MarkTex.Files.Store
import MarkTex.Html.Fragment
import MarkTex.Package.Requirement
import MarkTex.Settings.OptionSet
import MarkTex.Style.Markup

/-!
# Errors

Every failure is kept as its cause. The library's own failures are of a kind, and kinds are special
cases of one another; the kind decides the exit code of the command. Other failures come from what is
beneath the library and are passed on as they are.
-/

namespace MarkTex

/-- A computation in two parts succeeds just if the first part does and the second does behind it. -/
theorem except_bind_eq_ok {ε α β : Type} {x : Except ε α} {f : α → Except ε β} {y : β} :
    (x >>= f) = .ok y ↔ ∃ a, x = .ok a ∧ f a = .ok y := by
  cases x with
  | error e => simp [bind, Except.bind]
  | ok a => simp [bind, Except.bind]

/-- A failure told differently leaves successes as they are. -/
theorem except_mapError_eq_ok {ε ε' α : Type} {x : Except ε α} {f : ε → ε'} {y : α} :
    x.mapError f = .ok y ↔ x = .ok y := by
  cases x with
  | error e => exact ⟨nofun, nofun⟩
  | ok a => exact ⟨fun h => congrArg _ (Except.ok.inj h), fun h => congrArg _ (Except.ok.inj h)⟩

/-- With failures forgotten, a success is what is left. -/
theorem except_toOption_eq_some {ε α : Type} {x : Except ε α} {a : α} :
    x.toOption = some a ↔ x = .ok a := by
  cases x with
  | error e => exact ⟨nofun, nofun⟩
  | ok b => exact ⟨fun h => congrArg _ (Option.some.inj h), fun h => congrArg _ (Except.ok.inj h)⟩

/-- The kinds of the library's own failures. -/
inductive ErrorKind where
  | general
  | validation
  | invalidOptions
  | config
  | file
  | fileMissing
  | fileAccess
  | parsing
  | rendering
  | outputWrite
  | dependency
deriving DecidableEq

namespace ErrorKind

/-- The kind that a kind is a special case of. -/
def parent? : ErrorKind → Option ErrorKind
  | general => none
  | validation | file | parsing | rendering | dependency => some general
  | invalidOptions | config => some validation
  | fileMissing | fileAccess => some file
  | outputWrite => some rendering

/-- A kind and all that it is a special case of, the most special first. -/
def lineage (k : ErrorKind) : List ErrorKind :=
  match k.parent? with
  | none => [k]
  | some p =>
    match p.parent? with
    | none => [k, p]
    | some g => [k, p, g]

def exitCode (k : ErrorKind) : Nat :=
  if k.lineage.contains .dependency then 2
  else if k.lineage.contains .validation then 3
  else if k.lineage.contains .file then 4
  else if k.lineage.contains .parsing then 6
  else if k.lineage.contains .rendering then 7
  else 1

theorem exitCode_ne_zero (k : ErrorKind) : k.exitCode ≠ 0 := by
  cases k <;> decide

end ErrorKind

/-- The formats of configuration files. -/
inductive ConfigFormat where
  | toml
  | yaml
  | json
  /-- The section for this library in the file of a project. -/
  | project
deriving DecidableEq

/-- Why a configuration cannot be used. -/
inductive ConfigFault where
  | missing (path : Path)
  | notRegular (path : Path)
  | unknownFormat (path : Path) (suffix : String)
  /-- A file that the system does not let be read. -/
  | unreadable (path : Path) (format : ConfigFormat) (complaint : Text)
  | malformed (path : Path) (format : ConfigFormat) (complaint : Text)
  | notMapping (path : Path) (format : ConfigFormat) (typeName : String)
  | unknownSections (names : List Text)
  | notTable (table : String) (typeName : String)
  | unknownNames (table : String) (names : List Text)
  | wrongType (table name expected typeName : String)
  | badValue (table : String) (fault : OptionFault)

namespace ConfigFault

def path? : ConfigFault → Option Path
  | missing p | notRegular p | unknownFormat p _ | unreadable p _ _ | malformed p _ _
  | notMapping p _ _ => some p
  | _ => none

def listed (names : List Text) : Text := Text.join (Text.ofString ", ") names

def message : ConfigFault → Text
  | missing p => Text.ofString ("Configuration file does not exist: " ++ p.toString)
  | notRegular p => Text.ofString ("Configuration path is not a file: " ++ p.toString)
  | unknownFormat _ suffix => Text.ofString
      ("Unsupported config file format: " ++ suffix ++ ". Use .json, .toml, or .yaml")
  | unreadable p format complaint =>
    let head :=
      match format with
      | .toml => "Error reading TOML config "
      | .yaml => "Error reading YAML config "
      | .json => "Error reading JSON config "
      | .project => "Error reading "
    Text.ofString (head ++ p.toString ++ ": ") ++ complaint
  | malformed p format complaint =>
    let head :=
      match format with
      | .toml => "Invalid TOML in config file "
      | .yaml => "Invalid YAML in config file "
      | .json => "Invalid JSON in config file "
      | .project => "Invalid TOML in "
    Text.ofString (head ++ p.toString ++ ": ") ++ complaint
  | notMapping p format typeName => Text.ofString <|
      match format with
      | .json => "JSON config file must contain an object, got " ++ typeName
      | .project => "[tool.md2tex] section in " ++ p.toString ++ " must be a table, got " ++ typeName
      | _ => "YAML config file must contain a mapping, got " ++ typeName
  | unknownSections names => Text.ofString "Unknown configuration section(s): " ++ listed names
  | notTable table typeName =>
    Text.ofString ("[" ++ table ++ "] must be a table, got " ++ typeName)
  | unknownNames table names =>
    Text.ofString ("Unknown [" ++ table ++ "] option(s): ") ++ listed names
  | wrongType table name expected typeName => Text.ofString
      ("[" ++ table ++ "] " ++ name ++ " must be " ++ expected ++ ", got " ++ typeName)
  | badValue table fault =>
    Text.ofString ("Invalid [" ++ table ++ "] options: " ++ fault.message)

end ConfigFault

/-- A failure of what is beneath the library. -/
inductive Fault where
  | options (fault : OptionSetFault)
  | path (fault : PathFault) (path : Path)
  | nullInPath
  | noName (path : Path)
  | linkCircle (path : Path)
  | unsupportedOutput (typeName : String)
  | unencodable (fault : Encoding.Unencodable)
  | badBytes (fault : Encoding.DecodeFault)
  | encodingName (fault : Encoding.NameFault)
  | rejectedMarkup (why : Html.Rejection)
  | badVersion (fault : Package.CheckFault)
  | unknownLevel (name : Text)
  /-- A value of a type that has no such member. -/
  | noMember (typeName member : String)
  /-- A value that cannot be had from the characters that write it. -/
  | configValue (fault : Config.Yaml.ValueFault)
  | noHome
  | markup (fault : Style.MarkupFault)
  | keyNotText (position : Nat) (typeName : String)
  | unorderedKeys (first second : String)

def Fault.message : Fault → Text
  | options fault => fault.message
  | path fault p => Text.ofString (fault.message p)
  | nullInPath => Text.ofString "embedded null byte"
  | noName p => Text.ofString ("PosixPath(" ++ quoted p.text ++ ") has an empty name")
  | linkCircle p => Text.ofString ("Symlink loop from " ++ quoted p.text)
  | unsupportedOutput typeName =>
    Text.ofString ("Unsupported output type: <class '" ++ typeName ++ "'>")
  | unencodable fault => Text.ofString fault.message
  | badBytes fault => Text.ofString fault.message
  | encodingName fault => Text.ofString fault.message
  | rejectedMarkup why => Text.ofString why.message
  | badVersion fault => Text.ofString fault.message
  | unknownLevel name =>
    Text.ofString "module 'logging' has no attribute '" ++ name ++ Text.ofString "'"
  | noMember typeName member =>
    Text.ofString ("'" ++ typeName ++ "' object has no attribute '" ++ member ++ "'")
  | configValue fault => Text.ofString fault.message
  | noHome => Text.ofString "Could not determine home directory."
  | markup fault => fault.message
  | keyNotText position typeName => Text.ofString
      ("sequence item " ++ toString position ++ ": expected str instance, " ++ typeName ++ " found")
  | unorderedKeys first second => Text.ofString
      ("'<' not supported between instances of '" ++ first ++ "' and '" ++ second ++ "'")

/-- Something that the system refuses, by the name of the failure and its text. -/
structure Refusal where
  name : String
  message : Text
deriving DecidableEq

inductive Error where
  | unsupportedSource (typeName : String)
  | foreignOptions (component : String) (expected received : OptionKind)
  | config (fault : ConfigFault)
  | fileMissing (path : Path)
  | notRegular (path : Path)
  | undecodable (name : Text) (fault : Encoding.Undecodable)
  | unwritable (path : Path) (fault : PathFault)
  | unmet (requirements : Package.Unmet)
  /-- A failure that is passed on. -/
  | beneath (fault : Fault)
  /-- A refusal of the system that is passed on. -/
  | refused (refusal : Refusal)

namespace Error

def kind? : Error → Option ErrorKind
  | unsupportedSource _ => some .validation
  | foreignOptions _ _ _ => some .invalidOptions
  | config _ => some .config
  | fileMissing _ => some .fileMissing
  | notRegular _ => some .fileAccess
  | undecodable _ _ => some .parsing
  | unwritable _ _ => some .outputWrite
  | unmet _ => some .dependency
  | beneath _ | refused _ => none

def exitCode (e : Error) : Nat :=
  match e.kind? with
  | some k => k.exitCode
  | none => 1

theorem exitCode_ne_zero (e : Error) : e.exitCode ≠ 0 := by
  unfold exitCode
  split
  · exact ErrorKind.exitCode_ne_zero _
  · exact Nat.one_ne_zero

def foreignOptionsMessage (component expected received : String) : String :=
  component ++ " expected options of type '" ++ expected ++ "' but received '" ++ received ++ "'."

def fileMissingMessage (path : String) : String := "File not found: " ++ path

def fileAccessMessage (path : String) : String := "Cannot access file: " ++ path

def outputWriteMessage (path : String) : String := "Failed to write output file: " ++ path

def message : Error → Text
  | unsupportedSource typeName => Text.ofString ("Unsupported input type: " ++ typeName)
  | foreignOptions component expected received =>
    Text.ofString (foreignOptionsMessage component expected.name received.name)
  | config fault => fault.message
  | fileMissing p => Text.ofString (fileMissingMessage p.toString)
  | notRegular p => Text.ofString ("Not a regular file: " ++ p.toString)
  | undecodable name fault =>
    Text.ofString "Cannot decode input as " ++ name ++ Text.ofString ": " ++ fault.message
  | unwritable p _ => Text.ofString (outputWriteMessage p.toString)
  | unmet u => Text.ofString (u.message "")
  | beneath f => f.message
  | refused r => r.message

end Error

end MarkTex
