import MarkTex.Package.Specifier

/-!
# Requirements

A component needs packages to be importable under a name and installed in a version. The check goes
over all requirements and reports every one that is not met.
-/

namespace MarkTex.Package

/-- The packages at hand: the modules that can be imported, and the installed version of each
package. -/
structure Inventory where
  importable : List String
  installed : List (String × String)

/-- What a component needs: a package, the module it brings, and the versions that will do. Without a
specifier any version will. -/
structure Requirement where
  package : String
  module : String
  specifier : String

/-- Why a requirement cannot even be checked. -/
inductive CheckFault where
  | badVersion (text : String)
  | unnamedModule
  /-- The name of a module that is told from where it is imported. -/
  | relativeModule (name : String)
  | unnamedPackage

def CheckFault.message : CheckFault → String
  | badVersion text => "Invalid version: " ++ quotedString text
  | unnamedModule => "Empty module name"
  | relativeModule name => "the 'package' argument is required to perform a relative import for " ++
      quotedString name
  | unnamedPackage => "A distribution name is required."

/-- How modules are imported, packages looked up, and versions compared with specifiers. The check of
requirements goes by the answers alone. -/
structure Packaging where
  /-- Whether a module can be imported where some can. -/
  imports : List String → String → Except CheckFault Bool
  /-- The version of a package among those that are installed, if it is one of them. -/
  version? : List (String × String) → String → Except CheckFault (Option String)
  isVersion : String → Bool
  /-- What a specifier asks of versions, if a text is one. -/
  specifier? : String → Option (String → Bool)

/-- The installed version of a package. An empty one counts as none. -/
def Inventory.version? (i : Inventory) (package : String) : Option String :=
  ((i.installed.find? (·.1 = package)).map (·.2)).filter (· ≠ "")

namespace Packaging

/-- Modules and packages are told by the names that requirements give them. -/
def standard : Packaging where
  imports modules name :=
    if name = "" then .error .unnamedModule
    else if name.toList.head? = some '.' then .error (.relativeModule name)
    else .ok (modules.contains name)
  version? installed package :=
    if package = "" then .error .unnamedPackage
    else .ok ((installed.find? (·.1 = package)).map (·.2))
  isVersion text := (Version.ofString? text).isSome
  specifier? text := (Package.specifier? text.toList).map fun clauses installed =>
    (Version.ofString? installed).any fun v => meetsAll v clauses

/-- The version that a package counts as installed in. -/
def installed? (k : Packaging) (i : Inventory) (package : String) :
    Except CheckFault (Option String) :=
  (k.version? i.installed package).map (·.filter (· ≠ ""))

/-- Whether the installed version of a package meets a specifier, with that version. -/
def check (k : Packaging) (i : Inventory) (package specifier : String) :
    Except CheckFault (Bool × Option String) := do
  match ← k.installed? i package with
  | none => return (false, none)
  | some installed =>
    match k.specifier? specifier with
    | none => return (false, some installed)
    | some meets =>
      if k.isVersion installed then return (meets installed, some installed)
      else throw (.badVersion installed)

end Packaging

def Inventory.check (i : Inventory) (package specifier : String) :
    Except CheckFault (Bool × Option String) :=
  Packaging.standard.check i package specifier

/-- A package in a version that will not do. -/
structure Mismatch where
  package : String
  specifier : String
  installed : String

/-- A module that could not be imported. -/
structure ImportFailure where
  module : String

/-- The requirements of a component that are not met: packages that are missing, and packages in a
version that will not do, with the first failure to import a module. -/
structure Unmet where
  component : String
  missing : List (String × String)
  mismatched : List Mismatch
  cause : Option ImportFailure := none

namespace Unmet

/-- What is not met with one requirement more. -/
def check (k : Packaging) (i : Inventory) (u : Unmet) (r : Requirement) :
    Except CheckFault Unmet := do
  if !(← k.imports i.importable r.module) then
    return { u with
      missing := u.missing ++ [(r.package, r.specifier)]
      cause := u.cause.or (some ⟨r.module⟩) }
  else if r.specifier = "" then return u
  else
    let (ok, installed) ← k.check i r.package r.specifier
    if ok then return u
    else return { u with
      mismatched := u.mismatched ++ [⟨r.package, r.specifier, installed.getD "unknown"⟩] }

def isEmpty (u : Unmet) : Bool := u.missing.isEmpty && u.mismatched.isEmpty

/-- All packages that have to be installed, with their specifiers. -/
def wanted (u : Unmet) : List (String × String) :=
  u.missing ++ u.mismatched.map fun m => (m.package, m.specifier)

def advice (u : Unmet) (command : String) : String :=
  if command ≠ "" then "\nInstall with: " ++ command
  else if u.wanted.isEmpty then ""
  else "\nInstall with: pip install --upgrade " ++ " ".intercalate (u.wanted.map fun w =>
    if w.2 = "" then w.1 else "\"" ++ w.1 ++ w.2 ++ "\"")

def message (u : Unmet) (command : String) : String :=
  let missing :=
    if u.missing.isEmpty then []
    else [u.component ++ " requires the following packages: " ++
      ", ".intercalate (u.missing.map fun p => "'" ++ p.1 ++ p.2 ++ "'")]
  let mismatched :=
    if u.mismatched.isEmpty then []
    else [u.component ++ " has version mismatches: " ++ ", ".intercalate (u.mismatched.map fun m =>
      "'" ++ m.package ++ "' (requires " ++ m.specifier ++ ", but " ++ m.installed ++
        " is installed)")]
  "\n".intercalate (missing ++ mismatched) ++ u.advice command

end Unmet

/-- The requirements of a component that are not met. -/
def unmet (k : Packaging) (i : Inventory) (component : String) (rs : List Requirement) :
    Except CheckFault Unmet :=
  rs.foldlM (Unmet.check k i) ⟨component, [], [], none⟩

def markdownRequirements : List Requirement := [⟨"mistune", "mistune", ">=3.0.0"⟩]

def htmlRequirements : List Requirement := [⟨"beautifulsoup4", "bs4", ">=4.9.0"⟩]

end MarkTex.Package
