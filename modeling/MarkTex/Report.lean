import MarkTex.Config.Display
import MarkTex.Error

/-!
# Error reports

A failure as callers make and inspect it: its kind, its wording and its details by name. Each kind has
parameters of its own; wording that is not given follows from them.
-/

namespace MarkTex

open Config (Value)

/-- The parameters of a kind of failure, in the order in which they are given. -/
def ErrorKind.parameters : ErrorKind → List String
  | general => ["message", "original_error"]
  | validation => ["message", "parameter_name", "parameter_value", "original_error"]
  | invalidOptions =>
    ["converter_name", "expected_type", "received_type", "message", "original_error"]
  | config => ["message", "config_path", "original_error"]
  | file => ["message", "file_path", "original_error"]
  | fileMissing => ["file_path", "message", "original_error"]
  | fileAccess => ["file_path", "message", "original_error"]
  | parsing => ["message", "parsing_stage", "original_error"]
  | rendering => ["message", "rendering_stage", "original_error"]
  | outputWrite => ["file_path", "message", "original_error"]
  | dependency =>
    ["converter_name", "missing_packages", "version_mismatches", "install_command", "message",
     "original_import_error"]

/-- A failure with its details. -/
structure ErrorReport where
  kind : ErrorKind
  message : Value
  details : List (String × Value)

namespace ErrorReport

/-- What is given for the parameters of a kind, by position and by name. -/
structure Given where
  kind : ErrorKind
  positional : List Value
  named : List (String × Value)

namespace Given

/-- What is given for a parameter, if anything is. -/
def find? (g : Given) (parameter : String) : Option Value :=
  ((g.kind.parameters.zip g.positional ++ g.named).find? (·.1 = parameter)).map (·.2)

def get (g : Given) (parameter : String) : Value := (g.find? parameter).getD .null

def shown (g : Given) (parameter : String) : String := (g.get parameter).display.toString

def rows : Value → List (List String)
  | .list vs => vs.map fun v =>
    match v with
    | .list cells => cells.map fun c => c.display.toString
    | _ => []
  | _ => []

/-- The packages that a failure for want of packages is about. -/
def unmet (g : Given) : Package.Unmet where
  component := g.shown "converter_name"
  missing := (rows (g.get "missing_packages")).filterMap fun r =>
    match r with
    | [name, specifier] => some (name, specifier)
    | _ => none
  mismatched := (rows (g.get "version_mismatches")).filterMap fun r =>
    match r with
    | [name, specifier, installed] => some ⟨name, specifier, installed⟩
    | _ => none

def installCommand (g : Given) : Value := (g.find? "install_command").getD (.str [])

/-- The wording that follows from the parameters of a kind. -/
def defaultMessage (g : Given) : String :=
  match g.kind with
  | .invalidOptions => Error.foreignOptionsMessage (g.shown "converter_name")
      (g.shown "expected_type") (g.shown "received_type")
  | .fileMissing => Error.fileMissingMessage (g.shown "file_path")
  | .fileAccess => Error.fileAccessMessage (g.shown "file_path")
  | .outputWrite => Error.outputWriteMessage (g.shown "file_path")
  | .dependency => g.unmet.message g.installCommand.display.toString
  | _ => Value.null.shown

/-- The wording: what is given, else what follows. -/
def message (g : Given) : Value :=
  match g.get "message" with
  | .null => .str (Text.ofString g.defaultMessage)
  | v => v

/-- The details of a kind beside its wording. -/
def details (g : Given) : List (String × Value) :=
  let one (name : String) : String × Value := (name, g.get name)
  let cause := one "original_error"
  match g.kind with
  | .general => [cause]
  | .validation => [cause, one "parameter_name", one "parameter_value"]
  | .invalidOptions =>
    [cause, one "converter_name", one "expected_type", one "received_type",
     ("parameter_name", .str (Text.ofString "options")), ("parameter_value", g.get "received_type")]
  | .config =>
    [cause, one "config_path", ("parameter_name", .str (Text.ofString "config")),
     ("parameter_value", g.get "config_path")]
  | .file | .fileMissing | .fileAccess => [cause, one "file_path"]
  | .parsing => [cause, one "parsing_stage"]
  | .rendering => [cause, one "rendering_stage"]
  | .outputWrite =>
    [cause, one "file_path", ("rendering_stage", .str (Text.ofString "file_write"))]
  | .dependency =>
    let mismatches :=
      match g.get "version_mismatches" with
      | .null => Value.list []
      | v => v
    [("original_error", .null), one "original_import_error", one "converter_name",
     one "missing_packages", ("version_mismatches", mismatches),
     ("install_command", g.installCommand)]

end Given

def ofGiven (g : Given) : ErrorReport := ⟨g.kind, g.message, g.details⟩

end ErrorReport

end MarkTex
