import MarkTex.Text.Blank
import MarkTex.Text.Quoted

/-!
# Versions

The version of a package: an epoch, a release, and the marks of what comes before or after the release
(a pre-release, a post-release, a development release) or is local to a site. Versions are ordered:
development releases come before pre-releases, these before the release, and that before its
post-releases.
-/

namespace MarkTex.Package

inductive Stage where
  | alpha
  | beta
  | candidate
deriving DecidableEq

def Stage.rank : Stage → Nat
  | alpha => 0
  | beta => 1
  | candidate => 2

def Stage.letters : Stage → String
  | alpha => "a"
  | beta => "b"
  | candidate => "rc"

/-- A part of a local mark: a number or a word. -/
inductive LocalPart where
  | word (text : String)
  | number (n : Nat)
deriving DecidableEq

structure Version where
  epoch : Nat := 0
  release : List Nat
  pre : Option (Stage × Nat) := none
  post : Option Nat := none
  dev : Option Nat := none
  site : List LocalPart := []
deriving DecidableEq

namespace Version

/-! ## Reading -/

def number? (cs : List Char) : Option (Nat × List Char) :=
  let ds := cs.takeWhile Char.isDigit
  if ds.isEmpty then none
  else some (ds.foldl (fun n d => 10 * n + (d.toNat - 48)) 0, cs.drop ds.length)

/-- The number at the head of a text, or zero if there is none. -/
def numberOrZero (cs : List Char) : Nat × List Char := (number? cs).getD (0, cs)

def isSeparator (c : Char) : Bool := c == '-' || c == '_' || c == '.'

def skipSeparator : List Char → List Char
  | c :: cs => if isSeparator c then cs else c :: cs
  | [] => []

/-- What follows the first of some words that a text begins with, with what the word stands for. -/
def afterWord? (words : List (String × α)) (cs : List Char) : Option (α × List Char) :=
  words.findSome? fun w =>
    if w.1.toList.isPrefixOf cs then some (w.2, cs.drop w.1.length) else none

/-- The further numbers of a release, each behind a point. -/
def moreNumbers : Nat → List Char → List Nat × List Char
  | 0, cs => ([], cs)
  | fuel + 1, cs =>
    match cs with
    | '.' :: rest =>
      match number? rest with
      | some (n, rest) => let r := moreNumbers fuel rest; (n :: r.1, r.2)
      | none => ([], cs)
    | _ => ([], cs)

/-- The epoch and the release at the head of a text. -/
def release? (cs : List Char) : Option (Nat × List Nat × List Char) := do
  let cs := match cs with
    | 'v' :: rest => rest
    | _ => cs
  let (n, rest) ← number? cs
  match rest with
  | '!' :: rest =>
    let (m, rest) ← number? rest
    let r := moreNumbers rest.length rest
    return (n, m :: r.1, r.2)
  | _ =>
    let r := moreNumbers rest.length rest
    return (0, n :: r.1, r.2)

/-- The words for the stages; a longer word stands before those that it begins with. -/
def stageWords : List (String × Stage) :=
  [("alpha", .alpha), ("a", .alpha), ("beta", .beta), ("b", .beta), ("preview", .candidate),
   ("pre", .candidate), ("c", .candidate), ("rc", .candidate)]

/-- The mark of a pre-release at the head of a text. -/
def preMark (cs : List Char) : Option (Stage × Nat) × List Char :=
  match afterWord? stageWords (skipSeparator cs) with
  | some (stage, rest) =>
    let r := numberOrZero (skipSeparator rest)
    (some (stage, r.1), r.2)
  | none => (none, cs)

/-- The mark of a post-release at the head of a text: a number behind a hyphen, or a word. -/
def postMark (cs : List Char) : Option Nat × List Char :=
  let worded :=
    match afterWord? [("post", ()), ("rev", ()), ("r", ())] (skipSeparator cs) with
    | some (_, rest) => let r := numberOrZero (skipSeparator rest); (some r.1, r.2)
    | none => (none, cs)
  match cs with
  | '-' :: rest =>
    match number? rest with
    | some (n, rest) => (some n, rest)
    | none => worded
  | _ => worded

/-- The mark of a development release at the head of a text. -/
def devMark (cs : List Char) : Option Nat × List Char :=
  match afterWord? [("dev", ())] (skipSeparator cs) with
  | some (_, rest) => let r := numberOrZero (skipSeparator rest); (some r.1, r.2)
  | none => (none, cs)

/-- The marks behind a release. -/
def withMarks (epoch : Nat) (release : List Nat) (cs : List Char) : Version × List Char :=
  let (pre, cs) := preMark cs
  let (post, cs) := postMark cs
  let (dev, cs) := devMark cs
  ({ epoch, release, pre, post, dev }, cs)

/-- The parts of a text between separators. -/
def splitAtSeparators : List Char → List (List Char)
  | [] => [[]]
  | c :: cs =>
    if isSeparator c then [] :: splitAtSeparators cs
    else
      match splitAtSeparators cs with
      | part :: parts => (c :: part) :: parts
      | [] => [[c]]

def localPart? (cs : List Char) : Option LocalPart :=
  if cs.isEmpty || !cs.all Char.isAlphanum then none
  else if cs.all Char.isDigit then some (.number (numberOrZero cs).1)
  else some (.word (String.ofList cs))

/-- A version with the local mark that a text is, if it is one or empty. -/
def withSite? (v : Version) : List Char → Option Version
  | [] => some v
  | '+' :: rest => (splitAtSeparators rest).mapM localPart? |>.map fun ps => { v with site := ps }
  | _ => none

def lowerAscii (cs : List Char) : List Char := cs.map Char.toLower

/-- The version that a text stands for. Case and blanks around it do not matter. -/
def ofChars? (cs : List Char) : Option Version := do
  let (epoch, release, rest) ← release? (lowerAscii (trimBlank cs))
  let (v, rest) := withMarks epoch release rest
  v.withSite? rest

def ofString? (s : String) : Option Version := ofChars? s.toList

/-! ## Writing -/

def localText : LocalPart → String
  | .word s => s
  | .number n => toString n

def text (v : Version) : String :=
  (if v.epoch = 0 then "" else toString v.epoch ++ "!") ++
    ".".intercalate (v.release.map fun n => toString n) ++
    (match v.pre with | some (s, n) => s.letters ++ toString n | none => "") ++
    (match v.post with | some n => ".post" ++ toString n | none => "") ++
    (match v.dev with | some n => ".dev" ++ toString n | none => "") ++
    (if v.site.isEmpty then "" else "+" ++ ".".intercalate (v.site.map localText))

/-! ## Order -/

/-- Numbers without the zeros at their end. -/
def trimZeros (ns : List Nat) : List Nat := (ns.reverse.dropWhile (· == 0)).reverse

/-- The order of two lists by their first difference; a list comes after those that it begins with. -/
def compareLists (cmp : α → α → Ordering) : List α → List α → Ordering
  | [], [] => .eq
  | [], _ :: _ => .lt
  | _ :: _, [] => .gt
  | x :: xs, y :: ys => (cmp x y).then (compareLists cmp xs ys)

/-- The order of two parts of local marks. Words come before numbers. -/
def compareLocal : LocalPart → LocalPart → Ordering
  | .word s, .word t => compare s t
  | .word _, .number _ => .lt
  | .number _, .word _ => .gt
  | .number m, .number n => compare m n

/-- Where a version stands among those of its release by its mark of a pre-release: development
releases alone come first, then the stages, then the rest. -/
def preKey (v : Version) : Nat × Nat :=
  match v.pre with
  | some (s, n) => (s.rank + 1, n)
  | none => if v.post.isNone ∧ v.dev.isSome then (0, 0) else (4, 0)

/-- The order of two optional numbers, one of which is missing last or first. -/
def compareOption (missing : Ordering) : Option Nat → Option Nat → Ordering
  | none, none => .eq
  | none, some _ => missing
  | some _, none => missing.swap
  | some m, some n => compare m n

def order (v w : Version) : Ordering :=
  (compare v.epoch w.epoch).then <|
  (compareLists compare (trimZeros v.release) (trimZeros w.release)).then <|
  (compare v.preKey.1 w.preKey.1).then <|
  (compare v.preKey.2 w.preKey.2).then <|
  (compareOption .lt v.post w.post).then <|
  (compareOption .gt v.dev w.dev).then <|
  compareLists compareLocal v.site w.site

def publicPart (v : Version) : Version := { v with site := [] }

/-- The epoch and the release of a version alone. -/
def base (v : Version) : Version := { epoch := v.epoch, release := v.release }

/-- Whether a version comes before its release. -/
def isPreRelease (v : Version) : Bool := v.pre.isSome || v.dev.isSome

def isPostRelease (v : Version) : Bool := v.post.isSome

end Version

end MarkTex.Package
