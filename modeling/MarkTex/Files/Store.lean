import MarkTex.Encoding.Utf8
import MarkTex.Files.Path

/-!
# Files

A store holds regular files, directories and symbolic links by their location: the names that lead to
them from the root. A path is looked up name by name. A link on the way is followed, from the
directory it stands in; a name that leads upwards leads to the directory above the one reached.
-/

namespace MarkTex

/-- Where something stands: the names from the root. -/
abbrev Location := List String

/-- What stands at a location. -/
inductive Entry where
  | file (content : List UInt8)
  | directory
  | link (target : Path)
deriving DecidableEq

/-- Why a path could not be used. -/
inductive PathFault where
  | missing
  | notDirectory
  | isDirectory
  | nameTooLong
  | tooManyLinks
deriving DecidableEq

/-- The number and the wording that the system has for a fault. -/
def PathFault.report : PathFault → Nat × String
  | missing => (2, "No such file or directory")
  | notDirectory => (20, "Not a directory")
  | isDirectory => (21, "Is a directory")
  | nameTooLong => (36, "File name too long")
  | tooManyLinks => (40, "Too many levels of symbolic links")

def PathFault.message (f : PathFault) (p : Path) : String :=
  "[Errno " ++ toString f.report.1 ++ "] " ++ f.report.2 ++ ": " ++ quoted p.text

/-- All there is below the root. A location given twice counts as given first. -/
structure Store where
  entries : List (Location × Entry)

namespace Store

def empty : Store := ⟨[]⟩

/-- What stands at a location. The root is a directory. -/
def find? (s : Store) : Location → Option Entry
  | [] => some .directory
  | l => (s.entries.find? (·.1 = l)).map (·.2)

def insert (s : Store) (l : Location) (e : Entry) : Store :=
  ⟨(l, e) :: s.entries.filter (·.1 ≠ l)⟩

def erase (s : Store) (l : Location) : Store := ⟨s.entries.filter (·.1 ≠ l)⟩

/-- The store with all the directories on the way to a location and at it. -/
def withDirectories (s : Store) (l : Location) : Store :=
  (List.range l.length).foldl (fun s n =>
    let here := l.take (n + 1)
    if (s.find? here).isSome then s else s.insert here .directory) s

/-- Where a path leads. -/
inductive Place where
  | found (location : Location) (entry : Entry)
  /-- Nothing is there, but the directory for it is. -/
  | vacant (location : Location)
deriving DecidableEq

/-- The longest name in bytes. -/
def nameBound : Nat := 255

/-- The longest path in bytes, with its end mark. -/
def pathBound : Nat := 4096

/-- How many links a path may lead through. -/
def linkBound : Nat := 40

def byteLength (name : String) : Nat := (Encoding.utf8Encode name.toList).length

/-- The names that a link stands for, and the location from which they lead on. -/
def linkStart (here : Location) (target : Path) : Location :=
  if target.root = .relative then here else []

/-- Where names lead from a directory. At a link, the names that it stands for and those that are left
are followed on. -/
def walkNames (s : Store) (follow : Location → List String → Except PathFault Place)
    (here : Location) : List String → Except PathFault Place
  | [] => .ok (.found here .directory)
  | name :: rest =>
    if name = ".." then s.walkNames follow here.dropLast rest
    else if nameBound < byteLength name then .error .nameTooLong
    else
      match s.find? (here ++ [name]) with
      | none => if rest = [] then .ok (.vacant (here ++ [name])) else .error .missing
      | some .directory => s.walkNames follow (here ++ [name]) rest
      | some (.file content) =>
        if rest = [] then .ok (.found (here ++ [name]) (.file content)) else .error .notDirectory
      | some (.link target) => follow (linkStart here target) (target.names ++ rest)

/-- Where names lead from a directory, through at most a number of links. -/
def walk (s : Store) : Nat → Location → List String → Except PathFault Place
  | 0 => s.walkNames fun _ _ => .error .tooManyLinks
  | links + 1 => s.walkNames (s.walk links)

/-- Where a path leads from a directory. -/
def lookup (s : Store) (base : Location) (p : Path) : Except PathFault Place :=
  if pathBound ≤ byteLength p.toString then .error .nameTooLong
  else walk s linkBound (linkStart base p) p.names

def entryAt (s : Store) (base : Location) (p : Path) : Except PathFault Entry := do
  match ← s.lookup base p with
  | .found _ e => return e
  | .vacant _ => throw .missing

def read (s : Store) (base : Location) (p : Path) : Except PathFault (List UInt8) := do
  match ← s.entryAt base p with
  | .file content => return content
  | _ => throw .isDirectory

/-- The location of the file to be written at a path, which may be there or not. -/
def target (s : Store) (base : Location) (p : Path) : Except PathFault Location := do
  match ← s.lookup base p with
  | .found l (.file _) => return l
  | .found _ _ => throw .isDirectory
  | .vacant l => return l

def put (s : Store) (l : Location) (content : List UInt8) : Store := s.insert l (.file content)

def append (s : Store) (l : Location) (more : List UInt8) : Store :=
  match s.find? l with
  | some (.file content) => s.put l (content ++ more)
  | _ => s.put l more

/-- The location that a path stands for once all its links are followed, whether anything is there or
not; where links lead round in a circle, the names are taken as they are from the first link that is
met again. -/
def resolveNames (s : Store) : Nat → List Location → Location → List String → Location × Bool
  | 0, _, here, names => (tidy here names, false)
  | fuel + 1, active, here, names =>
    match names with
    | [] => (here, true)
    | name :: rest =>
      if name = ".." then resolveNames s fuel active here.dropLast rest
      else
        let next := here ++ [name]
        match s.find? next with
        | some (.link target) =>
          -- the link is one that is being followed: they lead round
          if active.contains next then (tidy next rest, false)
          else
            let (reached, ok) :=
              resolveNames s fuel (next :: active) (linkStart here target) target.names
            if ok then resolveNames s fuel active reached rest else (tidy reached rest, false)
        | _ => resolveNames s fuel active next rest
where
  /-- Names taken as they are. -/
  tidy (here : Location) (names : List String) : Location :=
    names.foldl (fun l n => if n = ".." then l.dropLast else l ++ [n]) here

/-- All names in a store. -/
def nameCount (s : Store) : Nat :=
  s.entries.foldl (fun count e =>
    match e.2 with
    | .link target => count + (target.names.length + 1)
    | _ => count + 1) 0

/-- The location that a path stands for, unless its links lead round in a circle. -/
def resolve (s : Store) (base : Location) (p : Path) : Except Path Location :=
  let bound := (s.entries.length + 1) * (p.names.length + s.nameCount + 1)
  let l := (resolveNames s bound [] (linkStart base p) p.names).1
  match s.lookup [] (.ofLocation l) with
  | .error .tooManyLinks => .error (.ofLocation l)
  | _ => .ok l

end Store

end MarkTex
