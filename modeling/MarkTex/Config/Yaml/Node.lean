import MarkTex.Config.Yaml.Token

/-!
# YAML nodes

The tree of a document: scalars, sequences and mappings, each with a tag that says what it stands for. A
node without a tag of its own takes one from its form; a plain scalar from its text. An alias is replaced
by the node that it names, so a node cannot hold itself.

Functions that read parts of a node take a bound; four times the number of tokens is always enough.
-/

namespace MarkTex.Config.Yaml

/-- What a node stands for. -/
inductive Tag where
  | null
  | bool
  | int
  | float
  | binary
  | timestamp
  | omap
  | pairs
  | set
  | str
  | seq
  | map
  /-- The key under which entries of other mappings are taken over. -/
  | merge
  /-- The key of the value that stands for a whole mapping. -/
  | value
  | other (address : String)
deriving DecidableEq

namespace Tag

/-- The tags of the common types, by the last part of their address. -/
def common : List (String × Tag) :=
  [("null", null), ("bool", bool), ("int", int), ("float", float), ("binary", binary),
   ("timestamp", timestamp), ("omap", omap), ("pairs", pairs), ("set", set), ("str", str),
   ("seq", seq), ("map", map), ("merge", merge), ("value", value)]

/-- The address under which the common types are. -/
def commonAddress : String := "tag:yaml.org,2002:"

def ofAddress (address : String) : Tag :=
  match common.find? fun e => commonAddress ++ e.1 = address with
  | some e => e.2
  | none => other address

end Tag

inductive Node where
  | scalar (tag : Tag) (text : Text)
  | sequence (tag : Tag) (items : List Node)
  | mapping (tag : Tag) (entries : List (Node × Node))

/-! ## The tags of plain scalars -/

def isDigitOrLine (c : Char) : Bool := c.isDigit || c == '_'

def unsigned : List Char → List Char
  | '-' :: rest => rest
  | '+' :: rest => rest
  | cs => cs

/-- Whether a text is a row of parts below sixty, each with a colon before it, and what follows it
satisfies a test. -/
def isSixties (rest : List Char → Bool) : List Char → Bool
  | ':' :: a :: b :: cs =>
    (a.isDigit && (rest (b :: cs) || isSixties rest (b :: cs))) ||
      ('0' ≤ a && a ≤ '5' && b.isDigit && (rest cs || isSixties rest cs))
  | [':', a] => a.isDigit && rest []
  | _ => false

/-- Whether a plain scalar is a whole number: binary, octal, decimal, hexadecimal or in parts below
sixty. -/
def isIntText (cs : List Char) : Bool :=
  match unsigned cs with
  | ['0'] => true
  | '0' :: 'b' :: ds => !ds.isEmpty && ds.all fun c => c == '0' || c == '1' || c == '_'
  | '0' :: 'x' :: ds => !ds.isEmpty && ds.all fun c => (hexValue? c).isSome || c == '_'
  | '0' :: ds => ds.all fun c => ('0' ≤ c && c ≤ '7') || c == '_'
  | d :: ds =>
    let rest := ds.dropWhile isDigitOrLine
    d.isDigit && (rest.isEmpty || isSixties List.isEmpty rest)
  | [] => false

/-- Whether a text is nothing or an exponent. An exponent has a sign. -/
def isExponent : List Char → Bool
  | [] => true
  | e :: s :: ds =>
    (e == 'e' || e == 'E') && (s == '-' || s == '+') && !ds.isEmpty && ds.all Char.isDigit
  | _ => false

/-- Whether a text is a point with digits behind it. -/
def isPointAndDigits : List Char → Bool
  | '.' :: ds => ds.all isDigitOrLine
  | _ => false

/-- Whether a plain scalar is a number that need not be whole. Without digits before the point it has
no sign. -/
def isFloatText (cs : List Char) : Bool :=
  let body := unsigned cs
  match body with
  | '.' :: rest =>
    (body == cs && rest.head?.any Char.isDigit && isExponent (rest.dropWhile isDigitOrLine)) ||
      ["inf", "Inf", "INF"].contains (String.ofList rest) ||
      (body == cs && ["nan", "NaN", "NAN"].contains (String.ofList rest))
  | d :: _ =>
    let rest := body.dropWhile isDigitOrLine
    d.isDigit &&
      match rest with
      | '.' :: rest => isExponent (rest.dropWhile isDigitOrLine)
      | rest => isSixties isPointAndDigits rest
  | [] => false

/-- The parts of a point in time, as digits. -/
structure MomentText where
  year : List Char
  month : List Char
  day : List Char
  time : Option (List Char × List Char × List Char × List Char) := none
  /-- The distance from universal time: whether it is a minus, hours and minutes. -/
  offset : Option (Bool × List Char × List Char) := none

def oneOrTwo? : List Char → Option (List Char × List Char)
  | a :: b :: rest =>
    if a.isDigit then (if b.isDigit then some ([a, b], rest) else some ([a], b :: rest)) else none
  | [a] => if a.isDigit then some ([a], []) else none
  | [] => none

def colonTwo? : List Char → Option (List Char × List Char)
  | ':' :: a :: b :: rest => if a.isDigit && b.isDigit then some ([a, b], rest) else none
  | _ => none

/-- The distance from universal time that a text is. -/
def offsetParts? (cs : List Char) : Option (Option (Bool × List Char × List Char)) :=
  match cs.dropWhile fun c => c == ' ' || c == '\t' with
  | [] => if cs.isEmpty then some none else none
  | ['Z'] => some (some (false, ['0'], ['0']))
  | sign :: rest => do
    if sign ≠ '+' ∧ sign ≠ '-' then none
    let (hours, rest) ← oneOrTwo? rest
    match rest with
    | [] => some (some (sign = '-', hours, ['0']))
    | _ => do
      let (minutes, rest) ← colonTwo? rest
      if rest.isEmpty then some (some (sign = '-', hours, minutes)) else none

/-- A point in time that a text writes, a month and a day with one digit allowed. -/
def momentParts? (cs : List Char) : Option MomentText := do
  let year := cs.take 4
  if year.length ≠ 4 ∨ !year.all Char.isDigit then none
  let (month, rest) ← oneOrTwo? (← afterDash? (cs.drop 4))
  let (day, rest) ← oneOrTwo? (← afterDash? rest)
  match rest with
  | [] => some ⟨year, month, day, none, none⟩
  | c :: more => do
    let rest ←
      if c = 'T' ∨ c = 't' then some more
      else if c = ' ' ∨ c = '\t' then some (more.dropWhile fun c => c == ' ' || c == '\t')
      else none
    let (hour, rest) ← oneOrTwo? rest
    let (minute, rest) ← colonTwo? rest
    let (second, rest) ← colonTwo? rest
    let (fraction, rest) :=
      match rest with
      | '.' :: rest => (rest.takeWhile Char.isDigit, rest.dropWhile Char.isDigit)
      | rest => ([], rest)
    let offset ← offsetParts? rest
    some ⟨year, month, day, some (hour, minute, second, fraction), offset⟩
where
  afterDash? : List Char → Option (List Char)
    | '-' :: rest => some rest
    | _ => none

/-- Whether a plain scalar is a point in time. A date alone has two digits for month and day. -/
def isMomentText (cs : List Char) : Bool :=
  match momentParts? cs with
  | some m => m.time.isSome || (m.month.length = 2 && m.day.length = 2)
  | none => false

def truthTexts : List String :=
  ["yes", "Yes", "YES", "no", "No", "NO", "true", "True", "TRUE", "false", "False", "FALSE",
   "on", "On", "ON", "off", "Off", "OFF"]

/-- The tag of a plain scalar. -/
def plainTag (t : Text) : Tag :=
  match t.chars? with
  | none => .str
  | some cs =>
    let s := String.ofList cs
    if truthTexts.contains s then .bool
    else if isFloatText cs then .float
    else if isIntText cs then .int
    else if s = "<<" then .merge
    else if ["", "~", "null", "Null", "NULL"].contains s then .null
    else if isMomentText cs then .timestamp
    else if s = "=" then .value
    else .str

/-! ## From tokens to nodes -/

/-- What has been read of a document and what is still to come. -/
structure Pending where
  tokens : List Placed
  /-- Why there are no more tokens, if the text is refused behind them. -/
  stop : Option Fault
  /-- The addresses that handles of tags stand for. -/
  handles : List (String × String)
  /-- The nodes with a name; a node that is still being read is not there yet. -/
  anchors : List (String × Option Node) := []

/-- The handles that every document knows. -/
def commonHandles : List (String × String) := [("!", "!"), ("!!", Tag.commonAddress)]

abbrev NodeReader := StateT Pending (Except Fault)

namespace NodeReader

def peek : NodeReader Token := do
  let s ← get
  match s.tokens with
  | t :: _ => return t.token
  | [] => throw (s.stop.getD (.malformed 1 1))

def refuse : NodeReader α := do
  let s ← get
  match s.tokens with
  | t :: _ => throw t.refusal
  | [] => throw (s.stop.getD (.malformed 1 1))

def pass : NodeReader Unit := modify fun s => { s with tokens := s.tokens.tail }

/-- The anchor and the tag before a node, in any order. -/
def readProperties : NodeReader (Option String × Option (Option String × String)) := do
  match ← peek with
  | .anchor name =>
    pass
    match ← peek with
    | .tag handle suffix => pass; return (some name, some (handle, suffix))
    | _ => return (some name, none)
  | .tag handle suffix =>
    pass
    match ← peek with
    | .anchor name => pass; return (some name, some (handle, suffix))
    | _ => return (none, some (handle, suffix))
  | _ => return (none, none)

/-- The address of a tag. -/
def resolveTag (tag : Option String × String) : NodeReader String := do
  match tag.1 with
  | none => return tag.2
  | some handle =>
    match (← get).handles.find? (·.1 = handle) with
    | some e => return e.2 ++ tag.2
    | none => refuse

/-- The tag of a node from its address if it has one, else from its form. -/
def tagOr (address : Option String) (form : Tag) : Tag :=
  match address with
  | none => form
  | some "!" => form
  | some address => .ofAddress address

def keep (anchor : Option String) (node : Option Node) : NodeReader Unit := do
  match anchor with
  | none => return
  | some name => modify fun s => { s with anchors := (name, node) :: s.anchors }

/-- The node that stands where nothing is written. -/
def nothing : Node := .scalar .null []

/-- Where a node stands, which decides what it may be. -/
inductive Position where
  /-- In a flow collection. -/
  | flow
  | block
  /-- In a block mapping, where the items of a sequence need not be indented. -/
  | entry
deriving DecidableEq

/-- Whether a token can follow an item of a block that is not there. -/
def endsEntry : Token → Bool
  | .key => true
  | .value => true
  | .blockEnd => true
  | _ => false

/-- Whether a token can follow a key or a value of a flow collection that is not there. -/
def endsFlow : Token → Bool
  | .value => true
  | .flowEntry => true
  | .flowSequenceEnd => true
  | .flowMappingEnd => true
  | _ => false

mutual

def readNode (position : Position) : Nat → NodeReader Node
  | 0 => refuse
  | fuel + 1 => do
    match ← peek with
    | .alias name =>
      match (← get).anchors.find? (·.1 = name) with
      | some (_, some node) => pass; return node
      | _ => refuse
    | _ => do
      let (anchor, tag) ← readProperties
      let address ← tag.mapM resolveTag
      let next ← peek
      let known := (← get).anchors
      if anchor.any fun name => known.any (·.1 = name) then refuse
      -- the name of a collection is taken from its start on, but stands for nothing before its end
      let sequenceOf (items : NodeReader (List Node)) : NodeReader Node := do
        keep anchor none
        let node := Node.sequence (tagOr address .seq) (← items)
        keep anchor (some node)
        return node
      let mappingOf (entries : NodeReader (List (Node × Node))) : NodeReader Node := do
        keep anchor none
        let node := Node.mapping (tagOr address .map) (← entries)
        keep anchor (some node)
        return node
      let scalarOf (form : Tag) (t : Text) : NodeReader Node := do
        let node := Node.scalar (tagOr address form) t
        keep anchor (some node)
        return node
      let bare : NodeReader Node :=
        if anchor.isNone && address.isNone then refuse else scalarOf .null []
      match next with
      | .scalar t plain =>
        pass
        -- a tag of one mark asks for the type that the form of the text has
        scalarOf (if plain || address = some "!" then plainTag t else .str) t
      | .flowSequenceStart => pass; sequenceOf (readFlowItems true fuel)
      | .flowMappingStart => pass; mappingOf (readFlowEntries true fuel)
      | .sequenceStart =>
        if position ≠ .flow then pass; sequenceOf (readBlockItems fuel)
        else bare
      | .mappingStart =>
        if position ≠ .flow then pass; mappingOf (readBlockEntries fuel)
        else bare
      | .blockEntry =>
        if position = .entry then sequenceOf (readLooseItems fuel)
        else bare
      | _ => bare

def readBlockItems : Nat → NodeReader (List Node)
  | 0 => refuse
  | fuel + 1 => do
    match ← peek with
    | .blockEntry =>
      pass
      let item ←
        match ← peek with
        | .blockEntry => pure nothing
        | .blockEnd => pure nothing
        | _ => readNode .block fuel
      return item :: (← readBlockItems fuel)
    | .blockEnd => pass; return []
    | _ => refuse

/-- The items of a sequence that is not indented in the mapping around it. -/
def readLooseItems : Nat → NodeReader (List Node)
  | 0 => refuse
  | fuel + 1 => do
    match ← peek with
    | .blockEntry =>
      pass
      let next ← peek
      let item ←
        match next with
        | .blockEntry => pure nothing
        | _ => if endsEntry next then pure nothing else readNode .block fuel
      return item :: (← readLooseItems fuel)
    | _ => return []

def readBlockEntries : Nat → NodeReader (List (Node × Node))
  | 0 => refuse
  | fuel + 1 => do
    match ← peek with
    | .key =>
      pass
      let key ← if endsEntry (← peek) then pure nothing else readNode .entry fuel
      let value ←
        match ← peek with
        | .value => do
          pass
          if endsEntry (← peek) then pure nothing else readNode .entry fuel
        | _ => pure nothing
      return (key, value) :: (← readBlockEntries fuel)
    | .blockEnd => pass; return []
    | _ => refuse

/-- The items of a sequence in brackets, of which the first has no comma before it. -/
def readFlowItems (first : Bool) : Nat → NodeReader (List Node)
  | 0 => refuse
  | fuel + 1 => do
    match ← peek with
    | .flowSequenceEnd => pass; return []
    | next => do
      if !first then
        match next with
        | .flowEntry => pass
        | _ => refuse
      match ← peek with
      | .flowSequenceEnd => pass; return []
      | .key => do
        pass
        let key ← if endsFlow (← peek) then pure nothing else readNode .flow fuel
        let value ←
          match ← peek with
          | .value => do
            pass
            if endsFlow (← peek) then pure nothing else readNode .flow fuel
          | _ => pure nothing
        return Node.mapping .map [(key, value)] :: (← readFlowItems false fuel)
      | _ => do
        let item ← readNode .flow fuel
        return item :: (← readFlowItems false fuel)

/-- The entries of a mapping in braces, of which the first has no comma before it. -/
def readFlowEntries (first : Bool) : Nat → NodeReader (List (Node × Node))
  | 0 => refuse
  | fuel + 1 => do
    match ← peek with
    | .flowMappingEnd => pass; return []
    | next => do
      if !first then
        match next with
        | .flowEntry => pass
        | _ => refuse
      match ← peek with
      | .flowMappingEnd => pass; return []
      | .key => do
        pass
        let key ← if endsFlow (← peek) then pure nothing else readNode .flow fuel
        let value ←
          match ← peek with
          | .value => do
            pass
            if endsFlow (← peek) then pure nothing else readNode .flow fuel
          | _ => pure nothing
        return (key, value) :: (← readFlowEntries false fuel)
      | _ => do
        let key ← readNode .flow fuel
        return (key, nothing) :: (← readFlowEntries false fuel)

end

end NodeReader

end MarkTex.Config.Yaml
