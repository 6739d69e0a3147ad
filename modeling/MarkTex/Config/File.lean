import MarkTex.Config.Json
import MarkTex.Config.Toml
import MarkTex.Host.FileAccess

/-!
# Configuration files

The suffix of a file says in which format it is written. The file of a project holds more than the
configuration of this library, which is a section of its own there. A configuration is a mapping. The
system may refuse to look for a file, and it may refuse to let it be read.
-/

namespace MarkTex

namespace Config

abbrev Entries := List (Value × Value)

def projectFile : String := "pyproject.toml"

/-- The format of a file, if its name says so. The case of letters does not count. -/
def formatOf? (p : Path) : Option ConfigFormat :=
  if lowerString p.name = projectFile then some .project
  else
    match lowerString p.suffix with
    | ".toml" => some .toml
    | ".yaml" => some .yaml
    | ".yml" => some .yaml
    | ".json" => some .json
    | _ => none

/-- The name of the type of a value where a member of it is asked for. -/
def ownerName (v : Value) : String :=
  match v with
  | .moment _ => "datetime." ++ v.typeName
  | v => v.typeName

variable (k : Platform)

/-- The text of a file in TOML or JSON. Bytes that are not UTF-8 and texts that are nested too deeply are
failures that are passed on. -/
def fileText (format : ConfigFormat) (bs : List UInt8) : Except Error (List Char) :=
  match Encoding.withName "utf-8" (Encoding.utf8Decode bs) with
  | .error f => .error (.beneath (.badBytes f))
  | .ok cs =>
    match k.tooDeep format cs with
    | some r => .error (.refused r)
    | none => .ok cs

def readToml (p : Path) (format : ConfigFormat) (bs : List UInt8) : Except Error Entries := do
  match Toml.read (← fileText k format bs) with
  | .ok es => return es
  | .error (.longNumber n) => throw (.beneath (.configValue (.longNumber n)))
  | .error f => throw (.config (.malformed p format (Text.ofString f.message)))

/-- The section for this library in the entries of the file of a project. -/
def projectSection (p : Path) (es : Entries) : Except Error Entries :=
  match Value.get? es "tool" with
  | none => .ok []
  | some (.dict tools) =>
    match Value.get? tools "md2tex" with
    | none => .ok []
    | some (.dict own) => .ok own
    | some v => .error (.config (.notMapping p .project v.typeName))
  | some v => .error (.beneath (.noMember (ownerName v) "get"))

def readJson (p : Path) (bs : List UInt8) : Except Error Entries := do
  match Json.read (unifyLineEnds (← fileText k .json bs)) with
  | .ok (.dict es) => return es
  | .ok v => throw (.config (.notMapping p .json v.typeName))
  | .error ⟨.longNumber n, _, _, _⟩ => throw (.beneath (.configValue (.longNumber n)))
  | .error f => throw (.config (.malformed p .json (Text.ofString f.message)))

/-- The entries of a file in YAML; an empty one has none. -/
def readYaml (p : Path) (bs : List UInt8) : Except Error Entries :=
  match k.yaml bs with
  | .ok (.dict es) => .ok es
  | .ok .null => .ok []
  | .ok v => .error (.config (.notMapping p .yaml v.typeName))
  | .error (.malformed complaint) => .error (.config (.malformed p .yaml complaint))
  | .error (.beneath f) => .error (.beneath f)
  | .error (.refused r) => .error (.refused r)

/-- The entries of an opened file. -/
def readContent (p : Path) (bs : List UInt8) : ConfigFormat → Except Error Entries
  | .toml => readToml k p .toml bs
  | .yaml => readYaml k p bs
  | .json => readJson k p bs
  | .project => do projectSection p (← readToml k p .project bs)

/-- The entries of a file. One that may not be read cannot be used. -/
def readFile (p : Path) (format : ConfigFormat) (bs : List UInt8) : Except Error Entries :=
  match k.opening p with
  | some r => .error (.config (.unreadable p format r.message))
  | none => readContent k p bs format

end Config

namespace Host

/-- What a path leads to where a configuration is looked for, if the system tells. -/
def configAt? (h : Host) (p : Path) : Except Error (Option Entry) :=
  match h.platform.looking p with
  | some r => .error (.refused r)
  | none => (h.found? p).mapError fun f => .beneath (.path f p)

/-- Whether a path leads to a file where a configuration is looked for. -/
def isConfigFile (h : Host) (p : Path) : Except Error Bool :=
  (h.configAt? p).map fun
    | some (.file _) => true
    | _ => false

end Host

namespace Action

open Config

def configAt? (p : Path) : Action (Option Entry) := do liftM ((← get).configAt? p)

def readConfigFile (p : Path) (format : ConfigFormat) (bs : List UInt8) : Action Entries := do
  liftM (readFile (← get).platform p format bs)

def configOrigin : String := "md2tex.cli.config"

def loadConfig (p : Path) : Action Entries := do
  match ← configAt? p with
  | none => throw (.config (.missing p))
  | some (.file bs) =>
    match formatOf? p with
    | none => throw (.config (.unknownFormat p (lowerString p.suffix)))
    | some format =>
      let es ← readConfigFile p format bs
      note configOrigin (Text.ofString ("Loaded configuration from " ++ p.toString))
      return es
  | some _ => throw (.config (.notRegular p))

end Action

end MarkTex
