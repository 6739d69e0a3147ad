import MarkTex.Config.File

/-!
# Finding a configuration

A configuration is looked for in a directory and those above it, then in the home directory. A file that
is named takes precedence: one that the caller names over one that the environment names, and both over
one that is found.
-/

namespace MarkTex

namespace Config

/-- The names of configuration files, the preferred one first. -/
def fileNames : List String := [".md2tex.toml", ".md2tex.yaml", ".md2tex.yml", ".md2tex.json"]

def fileVariable : String := "MD2TEX_CONFIG"

/-- The path of a home directory by its name, without slashes at its end. -/
def homePath? (value : String) : Option Path :=
  let cs := (value.toList.reverse.dropWhile (· == '/')).reverse
  match cs with
  | [] => some (.ofString "/")
  | '~' :: _ => none
  | cs => some (.ofChars cs)

end Config

/-- The home directory: the one that the environment names, else the one that the system knows. -/
def Host.home? (h : Host) : Option Path :=
  (h.env? "HOME" <|> h.platform.home?).bind Config.homePath?

namespace Action

open Config

/-- The first of some files in a directory that is a regular file. -/
def firstFile? (directory : Path) : List String → Action (Option Path)
  | [] => return none
  | name :: rest => do
    let p := directory.child name
    match ← configAt? p with
    | some (.file _) => return some p
    | _ => firstFile? directory rest

/-- The file of a project in a directory, if it holds a configuration. A file that cannot be read as one
is passed over. -/
def projectFile? (directory : Path) : Action (Option Path) := do
  let p := directory.child projectFile
  match ← configAt? p with
  | some (.file bs) =>
    let es ←
      try readConfigFile p .project bs
      catch e =>
        match e with
        | .config _ =>
          note configOrigin (Text.ofString ("Skipping unreadable " ++ p.toString))
          pure []
        | e => throw e
    return if es.isEmpty then none else some p
  | _ => return none

def configIn? (directory : Path) : Action (Option Path) := do
  match ← firstFile? directory fileNames with
  | some p => return some p
  | none => projectFile? directory

/-- The configuration file of the nearest of a directory and those above it, given by the names that
lead to it, the last first. -/
def nearestConfig? : List String → Action (Option Path)
  | [] => configIn? (.ofLocation [])
  | name :: outer => do
    match ← configIn? (.ofLocation (name :: outer).reverse) with
    | some p => return some p
    | none => nearestConfig? outer

/-- The configuration file for a directory; without one, for that of the host. -/
def findConfig? (start : Option Path) : Action (Option Path) := do
  let l ← resolve (start.getD ⟨.relative, []⟩)
  nearestConfig? l.reverse

/-- The configuration file for a directory, else that in the home directory. -/
def discoverConfig? (start : Option Path) : Action (Option Path) := do
  match ← findConfig? start with
  | some p => return some p
  | none =>
    match (← get).home? with
    | none => failBeneath .noHome
    | some home => firstFile? home fileNames

/-- The configuration that is to be used. A name that is empty names nothing; without any file there is
nothing in it. -/
def preferredConfig (named fromEnvironment : Option String) : Action Entries := do
  match named.filter (· ≠ "") <|> fromEnvironment.filter (· ≠ "") with
  | some name => loadConfig (.ofString name)
  | none =>
    match ← discoverConfig? none with
    | some p => loadConfig p
    | none => return []

end Action

end MarkTex
