import MarkTex.Command.Argument

/-!
# Reading a command line

A word that begins with a hyphen is a flag; it may be shortened as long as only one flag begins like it.
A flag can have its word attached behind an equals sign, and several flags of one letter can share a
hyphen. The other words go to the arguments with places of their own, as many of those as the words up to
the next flag serve; behind a word of two hyphens there are no flags.
-/

namespace MarkTex.Command

open Config (Value)

/-- Why reading a command line ends before all of it has been read. -/
inductive Stop where
  | help
  | version (text : String)
  | refused (message : String)
deriving DecidableEq

abbrev Values := List (String × Value)

namespace Values

def find (vs : Values) (dest : String) : Value := ((vs.find? (·.1 = dest)).map (·.2)).getD .null

def set (vs : Values) (dest : String) (v : Value) : Values :=
  (vs.filter (·.1 ≠ dest)) ++ [(dest, v)]

end Values

/-- What a word of a command line is. -/
inductive Word where
  | plain
  /-- Two hyphens. -/
  | separator
  /-- A flag, of an argument if one has it, as it is written out, with the word attached. -/
  | flag (argument : Option Argument) (name : String) (attached : Option String)

namespace Word

def isPlain : Word → Bool
  | plain => true
  | _ => false

def isSeparator : Word → Bool
  | separator => true
  | _ => false

def isFlag : Word → Bool
  | flag _ _ _ => true
  | _ => false

end Word

/-! ## Flags -/

def refuseFor (a : Argument) (message : String) : Except Stop α :=
  .error (.refused ("argument " ++ a.name ++ ": " ++ message))

def flagTable (arguments : List Argument) : List (String × Argument) :=
  arguments.flatMap fun a => a.flags.map fun f => (f, a)

def findFlag? (arguments : List Argument) (flag : String) : Option Argument :=
  ((flagTable arguments).find? (·.1 = flag)).map (·.2)

/-- A word as the part before its first equals sign and the part behind it. -/
def splitAttached (word : String) : String × Option String :=
  let head := word.toList.takeWhile (· != '=')
  match word.toList.drop head.length with
  | [] => (word, none)
  | _ :: rest => (String.ofList head, some (String.ofList rest))

/-- The flags that a word that is no flag may stand for: those that begin like it, or for a single hyphen
the flag of its first letter with the rest attached. -/
def readings (arguments : List Argument) (word : String) : List (Argument × String × Option String) :=
  let table := flagTable arguments
  if word.startsWith "--" then
    let (head, attached) := splitAttached word
    (table.filter fun e => e.1.startsWith head).map fun e => (e.2, e.1, attached)
  else
    let short := String.ofList (word.toList.take 2)
    let rest := String.ofList (word.toList.drop 2)
    table.filterMap fun e =>
      if e.1 = short then some (e.2, e.1, some rest)
      else if e.1.startsWith word then some (e.2, e.1, none)
      else none

def isNegativeNumber (word : String) : Bool :=
  let isDigit (c : Char) : Bool := (decimalValue? c).isSome
  match word.toList with
  | '-' :: rest =>
    let tail := rest.dropWhile isDigit
    (!rest.isEmpty && tail.isEmpty) ||
      match tail with
      | '.' :: ds => !ds.isEmpty && ds.all isDigit
      | _ => false
  | _ => false

def readWord (arguments : List Argument) (word : String) : Except Stop Word :=
  if !word.startsWith "-" then .ok .plain
  else
    match findFlag? arguments word with
    | some a => .ok (.flag (some a) word none)
    | none =>
      if word = "-" then .ok .plain
      else
        let (head, attached) := splitAttached word
        match attached.bind fun _ => findFlag? arguments head with
        | some a => .ok (.flag (some a) head attached)
        | none =>
          match readings arguments word with
          | [(a, flag, attached)] => .ok (.flag (some a) flag attached)
          | [] =>
            -- what begins like a flag is none with a space in it, nor is a negative number
            if isNegativeNumber word || word.contains ' ' then .ok .plain
            else .ok (.flag none word none)
          | several => .error (.refused ("ambiguous option: " ++ word ++ " could match " ++
              ", ".intercalate (several.map (·.2.1))))

/-- The words of a line with what they are. -/
def readWords (arguments : List Argument) : List String → Except Stop (List (String × Word))
  | [] => .ok []
  | word :: rest => do
    if word = "--" then return (word, .separator) :: rest.map fun w => (w, .plain)
    let w ← readWord arguments word
    return (word, w) :: (← readWords arguments rest)

/-! ## Places -/

def downFrom (n : Nat) : List Nat := (List.range (n + 1)).reverse

def separators (ws : List Word) : Nat := (ws.takeWhile Word.isSeparator).length

/-- How many words an argument with a place may take, the preferred number first. Separators around its
word are taken with it. -/
def spans (arity : Arity) (ws : List Word) : List Nat :=
  (downFrom (separators ws)).flatMap fun before =>
    let rest := ws.drop before
    let counts :=
      match arity with
      | .none => [0]
      | .one => [1]
      | .optional => [1, 0]
    counts.flatMap fun n =>
      if n = 0 ∨ (rest.head?.any Word.isPlain) then
        (downFrom (separators (rest.drop n))).map (before + n + ·)
      else []

/-- How many words each of some arguments takes, if there are enough words for all. -/
def shares? : List Argument → List Word → Option (List Nat)
  | [], _ => some []
  | a :: as, ws => (spans a.arity ws).findSome? fun n => (shares? as (ws.drop n)).map (n :: ·)

/-- How many words each of the first of some arguments takes, of as many arguments as there are words
for. -/
def partialShares (arguments : List Argument) (ws : List Word) : List Nat :=
  ((downFrom arguments.length).findSome? fun n => shares? (arguments.take n) ws).getD []

/-! ## Values -/

def Argument.convert (a : Argument) (word : Text) : Except Stop Value :=
  if a.integer then
    match Integer.ofText? 10 word with
    | some n => .ok (.int n)
    | none => refuseFor a ("invalid int value: " ++ quoted word)
  else .ok (.str word)

def Argument.checked (a : Argument) (v : Value) : Except Stop Value :=
  match a.choices with
  | none => .ok v
  | some allowed =>
    if allowed.any (Value.sameKey v) then .ok v
    else refuseFor a ("invalid choice: " ++ v.shown ++ " (choose from " ++
      ", ".intercalate (allowed.map Value.shown) ++ ")")

/-- The value of an argument from the words that it takes. A separator among them does not count; if no
word is left where one has to be, the value is an empty list. -/
def Argument.valueOf (a : Argument) (words : List String) : Except Stop Value :=
  let words := words.erase "--"
  match words, a.arity with
  | [], .optional =>
    match if a.flags.isEmpty then a.default else .null with
    | .str t => do a.checked (← a.convert t)
    | v => .ok v
  | [word], .one => do a.checked (← a.convert (Text.ofString word))
  | [word], .optional => do a.checked (← a.convert (Text.ofString word))
  | words, _ => do
    let vs ← words.mapM fun w => do a.checked (← a.convert (Text.ofString w))
    return .list vs

/-! ## Reading -/

structure Progress where
  values : Values
  /-- The arguments with places that have not had theirs. -/
  places : List Argument
  given : List Argument := []
  extra : List String := []

def give (p : Progress) (a : Argument) (words : List String) : Except Stop Progress := do
  let v ← a.valueOf words
  let p := { p with given := a :: p.given }
  match a.effect with
  | .store => return { p with values := p.values.set a.dest v }
  | .keep v => return { p with values := p.values.set a.dest v }
  | .showHelp => throw .help
  | .showVersion text => throw (.version text)

/-- The progress after an argument has taken its share of the words that are left, and the rest. -/
def giveShare (reached : Progress × List (String × Word)) (share : Argument × Nat) :
    Except Stop (Progress × List (String × Word)) := do
  let p ← give reached.1 share.1 ((reached.2.take share.2).map (·.1))
  return (p, reached.2.drop share.2)

/-- The progress after the arguments with places have taken words, and how many words. -/
def fillPlaces (p : Progress) (ws : List (String × Word)) : Except Stop (Progress × Nat) := do
  let counts := partialShares p.places (ws.map (·.2))
  let (q, rest) ← (p.places.zip counts).foldlM giveShare (p, ws)
  return ({ q with places := q.places.drop counts.length }, ws.length - rest.length)

/-- The arguments that a flag gives, with their words, and how many of the words that follow are among
them. The bound is how many letters can share the hyphen. -/
def flagUses (arguments : List Argument) (following : List (String × Word)) :
    Nat → Argument → String → Option String → Except Stop (List (Argument × List String) × Nat)
  | _, a, _, none =>
    match a.arity with
    | .none => .ok ([(a, [])], 0)
    | _ =>
      match following with
      | (word, .plain) :: _ => .ok ([(a, [word])], 1)
      | _ => if a.arity = .optional then .ok ([(a, [])], 0) else refuseFor a "expected one argument"
  | fuel, a, name, some attached =>
    match a.arity, attached.toList, fuel with
    | .none, c :: rest, fuel + 1 =>
      let ignored := refuseFor a ("ignored explicit argument " ++ quotedString attached)
      if name.startsWith "--" then ignored
      else
        -- an argument without words shares its hyphen with the flags behind it
        let next := String.ofList ['-', c]
        match findFlag? arguments next with
        | none => ignored
        | some b => do
          let attached := if rest.isEmpty then none else some (String.ofList rest)
          let (uses, n) ← flagUses arguments following fuel b next attached
          return ((a, []) :: uses, n)
    | .none, _, _ => refuseFor a ("ignored explicit argument " ++ quotedString attached)
    | _, _, _ => .ok ([(a, [attached])], 0)

/-- The progress after the words from here on, of which there are flags. -/
def readLine (arguments : List Argument) : Nat → Progress → List (String × Word) →
    Except Stop Progress
  | 0, p, _ => .ok p
  | fuel + 1, p, ws => do
    match ws with
    | (word, .flag none _ _) :: rest =>
      readLine arguments fuel { p with extra := p.extra ++ [word] } rest
    | (_, .flag (some a) name attached) :: rest =>
      let (uses, n) ← flagUses arguments rest ((attached.getD "").length + 1) a name attached
      let p ← uses.foldlM (fun p use => give p use.1 use.2) p
      readLine arguments fuel p (rest.drop n)
    | ws =>
      let (p, n) ← fillPlaces p ws
      if ws.any fun w => w.2.isFlag then
        if 0 < n then readLine arguments fuel p (ws.drop n)
        else
          -- nothing takes the words as far as the next flag
          let skipped := ws.takeWhile fun w => !w.2.isFlag
          readLine arguments fuel { p with extra := p.extra ++ skipped.map (·.1) }
            (ws.drop skipped.length)
      else return { p with extra := p.extra ++ (ws.drop n).map (·.1) }

/-- The values after the defaults of arguments not given have been read like words. -/
def readDefaults (p : Progress) : List Argument → Except Stop Progress
  | [] => .ok p
  | a :: rest =>
    match a.default with
    | .str t =>
      if a.required || p.given.any (a.same ·) then readDefaults p rest
      else do
        let v ← a.convert t
        readDefaults { p with values := p.values.set a.dest v } rest
    | _ => readDefaults p rest

/-- The values with the default of an argument, unless its destination has a value already. -/
def addDefault (vs : Values) (a : Argument) : Values :=
  match a.effect with
  | .store | .keep _ => if vs.any (·.1 = a.dest) then vs else vs.set a.dest a.default
  | _ => vs

/-- The values of the arguments on a line, or why there are none. -/
def readArguments (arguments : List Argument) (line : List String) : Except Stop Values := do
  let words ← readWords arguments line
  let start : Progress :=
    ⟨arguments.foldl addDefault [], arguments.filter fun a => a.flags.isEmpty, [], []⟩
  let p ← readLine arguments (2 * words.length + 2) start words
  let p ← readDefaults p arguments
  let missing := arguments.filter fun a => a.required && !p.given.any (a.same ·)
  if !missing.isEmpty then
    throw (.refused ("the following arguments are required: " ++
      ", ".intercalate (missing.map Argument.name)))
  if !p.extra.isEmpty then throw (.refused ("unrecognized arguments: " ++ " ".intercalate p.extra))
  return p.values

end MarkTex.Command
