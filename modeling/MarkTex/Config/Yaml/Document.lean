import MarkTex.Config.Yaml.Node
import MarkTex.Text.Case
import MarkTex.Text.Integer

/-!
# Reading YAML

A document is one node, and its value is what the tags of its nodes say. A mapping first takes over the
entries of the mappings that it names under the merging key, and then its own.
-/

namespace MarkTex.Config.Yaml

/-! ## Scalars -/

/-- A decimal number: digits, a point with digits, an exponent, or the name of a number that is not
finite. -/
def floatOfText? (t : Text) : Option Float := do
  let cs ← t.trim.chars?
  let digits := cs.map fun c => ((decimalValue? c).map fun d => Char.ofNat (48 + d)).getD c
  let (minus, body) := Integer.readSign digits
  match String.ofList (lowerCase body) with
  | "inf" => some (signed minus (1.0 / 0.0))
  | "infinity" => some (signed minus (1.0 / 0.0))
  | "nan" => some (0.0 / 0.0)
  | _ => do
    let whole := body.takeWhile Char.isDigit
    let (fraction, rest) :=
      match body.drop whole.length with
      | '.' :: rest => (rest.takeWhile Char.isDigit, rest.dropWhile Char.isDigit)
      | rest => ([], rest)
    if whole.isEmpty && fraction.isEmpty then none
    match rest with
    | [] => some (decimalFloat minus whole fraction 0)
    | e :: rest => do
      if e ≠ 'e' ∧ e ≠ 'E' then none
      let (down, ds) := Integer.readSign rest
      if ds.isEmpty || !ds.all Char.isDigit then none
      let n : Int := digitsToNat ds
      some (decimalFloat minus whole fraction (if down then -n else n))
where
  signed (minus : Bool) (x : Float) : Float := if minus then -x else x

def truthOf (t : Text) : Except ValueFault Bool :=
  let low : Text := Text.lower t
  if ["yes", "true", "on"].any fun s => low = Text.ofString s then .ok true
  else if ["no", "false", "off"].any fun s => low = Text.ofString s then .ok false
  else .error (.notTruth low)

def integerOf (base : Nat) (t : Text) : Except ValueFault Int :=
  match Integer.ofText? base t with
  | some n => .ok n
  | none => .error (.notInteger base t)

def floatOf (t : Text) : Except ValueFault Float :=
  match floatOfText? t with
  | some x => .ok x
  | none => .error (.notFloat t)

def colonParts (t : Text) : List Text :=
  match t with
  | [] => [[]]
  | c :: rest =>
    if c = .scalar ':' then [] :: colonParts rest
    else
      match colonParts rest with
      | [] => [[c]]
      | p :: ps => (c :: p) :: ps

/-- The sign at the head of a number, and what follows it. A number has at least a sign or a digit. -/
def splitSign (t : Text) : Except ValueFault (Bool × Text) :=
  match t with
  | [] => .error .noDigits
  | c :: rest =>
    if c = .scalar '-' then .ok (true, rest)
    else if c = .scalar '+' then .ok (false, rest)
    else .ok (false, t)

def intOf (t : Text) : Except ValueFault Int := do
  let (minus, body) ← splitSign (t.filter (· ≠ .scalar '_'))
  let n ←
    match body with
    | [] => throw .noDigits
    | [.scalar '0'] => pure 0
    | .scalar '0' :: .scalar 'b' :: rest => integerOf 2 rest
    | .scalar '0' :: .scalar 'x' :: rest => integerOf 16 rest
    | .scalar '0' :: _ => integerOf 8 body
    | _ => do
      let parts ← (colonParts body).mapM (integerOf 10)
      pure (parts.foldl (fun n d => 60 * n + d) 0)
  return if minus then -n else n

/-- The number that parts below sixty stand for, the last first, each with its weight. -/
def sumOfParts : List Float → Float → Float → Float
  | [], _, sum => sum
  | d :: ds, weight, sum => sumOfParts ds (60.0 * weight) (sum + d * weight)

def numberOf (t : Text) : Except ValueFault Float := do
  let (minus, body) ← splitSign (Text.lower (t.filter (· ≠ .scalar '_')))
  let x ←
    if body = Text.ofString ".inf" then pure (1.0 / 0.0)
    else if body = Text.ofString ".nan" then return 0.0 / 0.0
    else
      match colonParts body with
      | [_] => floatOf body
      | parts => do
        let xs ← parts.mapM floatOf
        pure (sumOfParts xs.reverse 1.0 0.0)
  return if minus then -x else x

def momentOf (t : Text) : Except ValueFault Moment := do
  let parts? := t.chars?.bind momentParts?
  match parts? with
  | none => throw .notMoment
  | some m =>
    let date : Date := ⟨digitsToNat m.year, digitsToNat m.month, digitsToNat m.day⟩
    match m.time with
    | none => (Moment.ofDate date).mapError .calendar
    | some (hour, minute, second, fraction) =>
      let time : TimeOfDay := ⟨digitsToNat hour, digitsToNat minute, digitsToNat second,
        TimeOfDay.microOf fraction⟩
      let offset := m.offset.map fun (minus, hours, minutes) =>
        let n : Int := 60 * digitsToNat hours + digitsToNat minutes
        if minus then -n else n
      (Moment.ofDateTime date time offset).mapError .calendar

/-! ## Bytes -/

/-- The value of a character in the notation of bytes with 64 digits. -/
def sextet? (c : Char) : Option Nat :=
  if 'A' ≤ c ∧ c ≤ 'Z' then some (c.toNat - 65)
  else if 'a' ≤ c ∧ c ≤ 'z' then some (c.toNat - 71)
  else if '0' ≤ c ∧ c ≤ '9' then some (c.toNat + 4)
  else if c = '+' then some 62
  else if c = '/' then some 63
  else none

/-- The bytes that characters stand for, four for three bytes; what is no digit does not count. The
arguments before are how many digits of four have been read, their value, and the marks of filling
since. -/
def bytesOfDigits? (count value fill : Nat) : List Char → Option (List UInt8)
  | [] => if count = 0 then some [] else none
  | c :: rest =>
    if c = '=' then
      if 2 ≤ count ∧ 4 ≤ count + fill + 1 then some []
      else bytesOfDigits? count value (if 2 ≤ count then fill + 1 else fill) rest
    else
      match sextet? c with
      | none => bytesOfDigits? count value fill rest
      | some d =>
        match count with
        | 0 => bytesOfDigits? 1 d 0 rest
        | 1 => (bytesOfDigits? 2 (d % 16) 0 rest).map (UInt8.ofNat (4 * value + d / 16) :: ·)
        | 2 => (bytesOfDigits? 3 (d % 4) 0 rest).map (UInt8.ofNat (16 * value + d / 4) :: ·)
        | _ => (bytesOfDigits? 0 0 0 rest).map (UInt8.ofNat (64 * value + d) :: ·)

/-! ## Nodes -/

/-- The fault of a node that is not of the form that its tag asks for. -/
def unfit : Fault := .malformed 1 1

namespace Node

def tag : Node → Tag
  | scalar t _ => t
  | sequence t _ => t
  | mapping t _ => t

/-- The entries of the mappings that are to be taken over: of one, or of several, the last first. -/
def entriesToTake : Node → Except Fault (List (Node × Node))
  | scalar _ _ => .error unfit
  | mapping _ entries => .ok entries
  | sequence _ items =>
    items.foldlM (fun taken item =>
      match item with
      | mapping _ entries => .ok (entries ++ taken)
      | _ => .error unfit) []

/-- A key of a mapping. The key of the value of a whole mapping is an ordinary one there. -/
def asKey : Node → Node
  | scalar .value text => scalar .str text
  | n => n

mutual

/-- A node in which every mapping has the entries that it takes over, before its own. -/
def merged : Node → Except Fault Node
  | scalar tag text => .ok (scalar tag text)
  | sequence tag items => do return sequence tag (← mergedEach items)
  | mapping tag entries => do
    if tag = .map ∨ tag = .set then
      let (taken, own) ← mergedEntries entries
      return mapping tag (taken ++ own)
    else return mapping tag entries

def mergedEach : List Node → Except Fault (List Node)
  | [] => .ok []
  | n :: ns => do return (← merged n) :: (← mergedEach ns)

/-- The entries that a mapping takes over, and its own. -/
def mergedEntries : List (Node × Node) → Except Fault (List (Node × Node) × List (Node × Node))
  | [] => .ok ([], [])
  | (key, value) :: rest => do
    let value ← merged value
    let key ← merged key
    let (taken, own) ← mergedEntries rest
    if key.tag = .merge then return ((← value.entriesToTake) ++ taken, own)
    else return (taken, (key.asKey, value) :: own)

end

mutual

/-- The text that a node stands for: its own, or that of the value of a whole mapping. -/
def text? : Node → Option Text
  | scalar _ text => some text
  | sequence _ _ => none
  | mapping _ entries => textIn? entries

def textIn? : List (Node × Node) → Option Text
  | [] => none
  | (key, value) :: rest => if key.tag = .value then text? value else textIn? rest

end

def valueOfText (tag : Tag) (text : Text) : Except Fault Value :=
  match tag with
  | .null => .ok .null
  | .bool => ((truthOf text).map Value.bool).mapError .value
  | .int => ((intOf text).map Value.int).mapError .value
  | .float => ((numberOf text).map Value.float).mapError .value
  | .timestamp => ((momentOf text).map Value.moment).mapError .value
  | .str => .ok (.str text)
  | .binary =>
    match text.chars? with
    | some cs =>
      if cs.all fun c => c.toNat < 128 then
        match bytesOfDigits? 0 0 0 cs with
        | some bs => .ok (.bytes bs)
        | none => .error unfit
      else .error unfit
    | none => .error unfit
  | _ => .error unfit

def isKey : Value → Bool
  | .list _ => false
  | .set _ => false
  | .dict _ => false
  | _ => true

mutual

def toValue : Node → Except Fault Value
  | scalar tag text => valueOfText tag text
  | sequence tag items =>
    if tag = .seq then do return .list (← toValues items)
    else if tag = .omap ∨ tag = .pairs then do return .list (← toPairs items)
    else .error unfit
  | mapping tag entries =>
    if tag = .map then do return .dict (← toEntries [] entries)
    else if tag = .set then do return .set ((← toEntries [] entries).map (·.1))
    else
      match textIn? entries with
      | some text => valueOfText tag text
      | none => .error unfit

def toValues : List Node → Except Fault (List Value)
  | [] => .ok []
  | n :: ns => do return (← toValue n) :: (← toValues ns)

/-- The pairs that mappings of one entry are. -/
def toPairs : List Node → Except Fault (List Value)
  | [] => .ok []
  | mapping _ [(key, value)] :: ns => do
    let first ← toValue key
    let second ← toValue value
    return .pair first second :: (← toPairs ns)
  | _ => .error unfit

/-- The entries of a mapping after those there are. -/
def toEntries (done : List (Value × Value)) :
    List (Node × Node) → Except Fault (List (Value × Value))
  | [] => .ok done
  | (key, value) :: rest => do
    let k ← toValue key
    if !isKey k then throw unfit
    let v ← toValue value
    toEntries (Value.insert done k v) rest

end

end Node

/-! ## Documents -/

namespace NodeReader

def readDirectives (versioned : Bool) (own : List (String × String)) : Nat → NodeReader Unit
  | 0 => refuse
  | fuel + 1 => do
    match ← peek with
    | .directive (.version major) =>
      if versioned ∨ major ≠ 1 then refuse
      pass
      readDirectives true own fuel
    | .directive (.handle name address) =>
      if own.any (·.1 = name) then refuse
      pass
      readDirectives versioned ((name, address) :: own) fuel
    | .directive .other => pass; readDirectives versioned own fuel
    | .documentStart =>
      pass
      modify fun s => { s with handles := own ++ commonHandles }
    | _ => refuse

/-- Passes marks of the end of a document; then there must be no more. -/
def readEnd : Nat → NodeReader Unit
  | 0 => refuse
  | fuel + 1 => do
    match ← peek with
    | .documentEnd => pass; readEnd fuel
    | .streamEnd => return
    | _ => refuse

/-- Whether a token can follow the start of a document that holds nothing. -/
def endsDocument : Token → Bool
  | .directive _ => true
  | .documentStart => true
  | .documentEnd => true
  | .streamEnd => true
  | _ => false

/-- The node of the only document, if there is a document. -/
def readDocument (bound : Nat) : NodeReader (Option Node) := do
  let node ←
    match ← peek with
    | .streamEnd => pure none
    | .documentEnd => some <$> readNode .block bound
    | first =>
      if endsDocument first then
        readDirectives false [] bound
        if endsDocument (← peek) then pure (some nothing) else some <$> readNode .block bound
      else some <$> readNode .block bound
  readEnd bound
  return node

end NodeReader

/-- The value of a text; of an empty one, no value. -/
def read (cs : List Char) : Except Fault Value := do
  match cs.findIdx? fun c => !isAllowed c with
  | some i => throw (Place.fault ((Place.mk cs 0 0 0).forward i))
  | none =>
    let (ts, stop) := tokens cs
    let (node?, _) ← (NodeReader.readDocument (4 * ts.length + 4)).run ⟨ts, stop, commonHandles, []⟩
    match node? with
    | none => return .null
    | some node => (← node.merged).toValue

end MarkTex.Config.Yaml
