import MarkTex.Text.CodePoint
import MarkTex.Text.Quoted

/-!
# Paths

A path is a root and the names that lead on from it. Reading a path drops empty names and names that
stand for the directory itself; names that lead upwards stay, since what they mean depends on links.
-/

namespace MarkTex

/-- Where the names of a path begin. -/
inductive PathRoot where
  | relative
  | absolute
  /-- Two slashes, which a system may read in its own way. -/
  | doubled
deriving DecidableEq, Inhabited

def PathRoot.text : PathRoot → String
  | relative => ""
  | absolute => "/"
  | doubled => "//"

/-- A path. -/
structure Path where
  root : PathRoot
  names : List String
deriving DecidableEq, Inhabited

namespace Path

/-- The parts of a text between slashes. -/
def splitAtSlashes (cs : List Char) : List (List Char) := go [] cs
where
  go (acc : List Char) : List Char → List (List Char)
    | [] => [acc.reverse]
    | c :: rest => if c = '/' then acc.reverse :: go [] rest else go (c :: acc) rest

def namesOf (cs : List Char) : List String :=
  ((splitAtSlashes cs).filter fun n => n ≠ [] ∧ n ≠ ['.']).map String.ofList

/-- The root that a text begins with. Three slashes or more are one. -/
def rootOf (cs : List Char) : PathRoot :=
  match (cs.takeWhile (· == '/')).length with
  | 0 => .relative
  | 2 => .doubled
  | _ => .absolute

def ofChars (cs : List Char) : Path := ⟨rootOf cs, namesOf cs⟩

def ofString (s : String) : Path := ofChars s.toList

def ofLocation (names : List String) : Path := ⟨.absolute, names⟩

/-- The text of a path. A path without root and names is the directory itself. -/
def toString (p : Path) : String :=
  if p.root = .relative ∧ p.names = [] then "." else p.root.text ++ "/".intercalate p.names

def text (p : Path) : Text := Text.ofString p.toString

def name (p : Path) : String := p.names.getLastD ""

/-- The path of a name in the directory at a path. -/
def child (p : Path) (name : String) : Path := { p with names := p.names ++ [name] }

/-- The directory that a path is in; a root is in itself. -/
def parent (p : Path) : Path := { p with names := p.names.dropLast }

/-- A name cut before its suffix. The suffix goes from the last point to the end; a point that begins
or ends the name starts none. -/
def splitSuffix (name : String) : String × String :=
  let cs := name.toList
  let tail := cs.reverse.takeWhile (· != '.')
  let stem := cs.take (cs.length - tail.length - 1)
  if tail.length = cs.length ∨ stem = [] ∨ tail = [] then (name, "")
  else (String.ofList stem, String.ofList ('.' :: tail.reverse))

def suffix (p : Path) : String := (splitSuffix p.name).2

/-- The path with another suffix, unless it has no last name. -/
def withSuffix? (p : Path) (suffix : String) : Option Path :=
  if p.name = "" then none
  else some { p with names := p.names.dropLast ++ [(splitSuffix p.name).1 ++ suffix] }

end Path

end MarkTex
