import MarkTex.Package.Version

/-!
# Version specifiers

A specifier is a row of clauses, all of which a version has to meet. A clause compares the version
with one of its own.
-/

namespace MarkTex.Package

/-- A clause of a specifier. -/
inductive Clause where
  | atLeast (v : Version)
  | atMost (v : Version)
  | above (v : Version)
  | below (v : Version)
  | equal (v : Version)
  | notEqual (v : Version)
  /-- The epoch and the release begin with these. -/
  | within (epoch : Nat) (release : List Nat)
  | notWithin (epoch : Nat) (release : List Nat)
  /-- At least a version, with all but the last number of its release. -/
  | compatible (v : Version)
  /-- The text of the version is this one. -/
  | identical (text : List Char)

namespace Clause

/-- Whether two versions have the same place in the order. -/
def same (v w : Version) : Bool := v.order w == .eq

/-- Whether a version equals the one of a clause, whose local mark counts only if it has one. -/
def equals (v w : Version) : Bool := same (if w.site.isEmpty then v.publicPart else v) w

/-- Whether the release of a version, with zeros at its end as needed, begins with numbers. -/
def beginsWith (v : Version) (epoch : Nat) (release : List Nat) : Bool :=
  v.epoch == epoch &&
    (v.release ++ List.replicate (release.length - v.release.length) 0).take release.length == release

/-- Whether a version meets a clause. Pre-releases of a version are not below it, and neither its
post-releases nor its local forms are above it. -/
def meets (v : Version) : Clause → Bool
  | atLeast w => v.publicPart.order w != .lt
  | atMost w => v.publicPart.order w != .gt
  | above w => v.order w == .gt &&
      !(!w.isPostRelease && v.isPostRelease && same v.base w.base) &&
      !(!v.site.isEmpty && same v.base w.base)
  | below w => v.order w == .lt &&
      !(!w.isPreRelease && v.isPreRelease && same v.base w.base)
  | equal w => equals v w
  | notEqual w => !equals v w
  | within epoch release => beginsWith v epoch release
  | notWithin epoch release => !beginsWith v epoch release
  | compatible w => v.publicPart.order w != .lt && beginsWith v w.epoch w.release.dropLast
  | identical text => Version.lowerAscii v.text.toList == Version.lowerAscii text

/-- The version that a whole text is, without a local mark. -/
def plainVersion? (cs : List Char) : Option Version := do
  let (epoch, release, rest) ← Version.release? cs
  let (v, rest) := Version.withMarks epoch release rest
  if rest.isEmpty then some v else none

/-- The clause that equality with a text stands for: a text may end with a star for any further
numbers, or have a local mark. -/
def equality? (wrap : Version → Clause) (wrapPart : Nat → List Nat → Clause) (cs : List Char) :
    Option Clause := do
  let (epoch, release, rest) ← Version.release? cs
  if rest = ['.', '*'] then some (wrapPart epoch release)
  else
    let (v, rest) := Version.withMarks epoch release rest
    (v.withSite? rest).map wrap

/-- The clause that a text stands for. -/
def ofChars? (cs : List Char) : Option Clause :=
  let cs := trimBlank cs
  let version (rest : List Char) := Version.lowerAscii (trimBlank rest)
  match cs with
  | '=' :: '=' :: '=' :: rest =>
    let text := trimBlank rest
    if text.any fun c => isBlank c || c == ';' || c == ')' then none else some (identical text)
  | '~' :: '=' :: rest => (plainVersion? (version rest)).bind fun v =>
    if 2 ≤ v.release.length then some (compatible v) else none
  | '=' :: '=' :: rest => equality? equal within (version rest)
  | '!' :: '=' :: rest => equality? notEqual notWithin (version rest)
  | '<' :: '=' :: rest => (plainVersion? (version rest)).map atMost
  | '>' :: '=' :: rest => (plainVersion? (version rest)).map atLeast
  | '<' :: rest => (plainVersion? (version rest)).map below
  | '>' :: rest => (plainVersion? (version rest)).map above
  | _ => none

end Clause

def splitAtCommas (cs : List Char) : List (List Char) := go [] cs
where
  go (acc : List Char) : List Char → List (List Char)
    | [] => [acc.reverse]
    | c :: rest => if c = ',' then acc.reverse :: go [] rest else go (c :: acc) rest

/-- The specifier that a text stands for. Empty clauses do not count. -/
def specifier? (cs : List Char) : Option (List Clause) :=
  ((splitAtCommas cs).filter fun c => !(trimBlank c).isEmpty).mapM Clause.ofChars?

/-- Whether versions of one kind, those before a release, are meant by a clause. A clause that only rules
versions out or sets a strict bound means none. -/
def Clause.meansPreReleases : Clause → Bool
  | atLeast w | atMost w | equal w | compatible w => w.isPreRelease
  | identical text => (Version.ofChars? text).any (·.isPreRelease)
  | _ => false

/-- Whether a version meets all clauses. Versions before a release do only if a clause means such. -/
def meetsAll (v : Version) (clauses : List Clause) : Bool :=
  (!v.isPreRelease || clauses.any (·.meansPreReleases)) && clauses.all (·.meets v)

end MarkTex.Package
