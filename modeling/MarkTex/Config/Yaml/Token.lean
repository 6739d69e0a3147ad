import MarkTex.Config.Yaml.Scalar

/-!
# YAML tokens

The tokens of a document say where blocks begin and end, which in the text only columns say. That
something was the key of a mapping shows when its colon is read; the token that announces the key is then
put before it, into a place that every token has for this.
-/

namespace MarkTex.Config.Yaml

inductive Token where
  | directive (d : Directive)
  | documentStart
  | documentEnd
  | streamEnd
  | sequenceStart
  | mappingStart
  | blockEnd
  | flowSequenceStart
  | flowSequenceEnd
  | flowMappingStart
  | flowMappingEnd
  | flowEntry
  | blockEntry
  | key
  | value
  | alias (name : String)
  | anchor (name : String)
  | tag (handle : Option String) (suffix : String)
  | scalar (text : Text) (plain : Bool)

/-- A token with the tokens put before it later, and the place behind it. -/
structure Slot where
  announced : List Token := []
  token : Token
  place : Place

/-- Where a key may have begun. -/
structure KeyStart where
  level : Nat
  /-- The number of the token that the key would begin with. -/
  slot : Nat
  /-- Whether nothing but a key can stand there. -/
  required : Bool
  index : Nat
  line : Nat
  column : Nat

/-- How far the tokens of a document have been read. -/
structure Layout where
  slots : Array Slot := #[]
  depth : Nat := 0
  /-- The column from which on lines belong to the innermost block. -/
  margin : Nat := 0
  /-- The margins of the blocks around it. -/
  outer : List Nat := []
  /-- Whether a key may begin here. -/
  keyAllowed : Bool := true
  /-- The places where a key may have begun, one for each depth. -/
  keys : List KeyStart := []

abbrev TokenReader := StateT Layout Reader

namespace TokenReader

def place : TokenReader Place := liftM (m := Reader) MonadState.get

def refuse : TokenReader α := liftM (m := Reader) Reader.refuse

def add (t : Token) : TokenReader Unit := do
  let p ← place
  modify fun l => { l with slots := l.slots.push ⟨[], t, p⟩ }

def allowKey (b : Bool) : TokenReader Unit := modify fun l => { l with keyAllowed := b }

/-- Gives up the places that are too far behind: a key stands on one line and has at most 1024
characters. -/
def dropStaleKeys : TokenReader Unit := do
  let p ← place
  let stale (k : KeyStart) : Bool := k.line != p.line || 1024 < p.index - k.index
  let l ← get
  if l.keys.any fun k => stale k && k.required then refuse
  set { l with keys := l.keys.filter fun k => !stale k }

/-- Gives up the place at this depth. -/
def dropKey : TokenReader Unit := do
  let l ← get
  if l.keys.any fun k => k.level == l.depth && k.required then refuse
  set { l with keys := l.keys.filter fun k => k.level != l.depth }

/-- Keeps this place as one where a key may have begun. -/
def markKey : TokenReader Unit := do
  let before ← get
  if before.keyAllowed then
    dropKey
    let p ← place
    let l ← get
    let k : KeyStart :=
      ⟨l.depth, l.slots.size, l.depth = 0 && l.margin = p.column + 1, p.index, p.line, p.column⟩
    set { l with keys := k :: l.keys }

/-- Ends the blocks that lie to the right of a column; blocks to be ended are as many as there are
margins. -/
def endBlocks (margin : Nat) : TokenReader Unit := do
  let l ← get
  if l.depth = 0 then
    for _ in l.outer do
      let l ← get
      if margin < l.margin then
        set { l with margin := l.outer.headD 0, outer := l.outer.tail }
        add .blockEnd

/-- Begins a block at a column, unless the block there goes on. -/
def beginBlock (column : Nat) : TokenReader Bool := do
  let l ← get
  if l.margin ≤ column then
    set { l with margin := column + 1, outer := l.margin :: l.outer }
    return true
  else return false

/-- Ends all blocks, before a token that no block holds. -/
def endAll : TokenReader Unit := do
  endBlocks 0
  dropKey
  allowKey false

def lift (r : Reader α) : TokenReader α := liftM r

/-- Adds a token of a number of characters. -/
def pass (n : Nat) (t : Token) : TokenReader Unit := do
  lift (Reader.forward n)
  add t

def openFlow (t : Token) : TokenReader Unit := do
  markKey
  modify fun l => { l with depth := l.depth + 1 }
  allowKey true
  pass 1 t

def closeFlow (t : Token) : TokenReader Unit := do
  dropKey
  if (← get).depth = 0 then refuse
  modify fun l => { l with depth := l.depth - 1 }
  allowKey false
  pass 1 t

/-- The mark before an item of a block, which may begin the block. -/
def openItem (start item : Token) (keyBehind : Bool) : TokenReader Unit := do
  let l ← get
  if l.depth = 0 then
    if !l.keyAllowed then refuse
    if ← beginBlock (← place).column then add start
  allowKey keyBehind
  dropKey
  pass 1 item

def readValueMark : TokenReader Unit := do
  let l ← get
  match l.keys.find? (·.level == l.depth) with
  | some k =>
    set { l with keys := l.keys.filter fun k => k.level != l.depth }
    let begins ← if l.depth = 0 then beginBlock k.column else pure false
    let announced := if begins then [Token.mappingStart, .key] else [.key]
    modify fun l => { l with
      slots := l.slots.modify k.slot fun s => { s with announced := announced ++ s.announced } }
    allowKey false
    pass 1 .value
  | none => openItem .mappingStart .value (l.depth = 0)

/-- Passes blanks, comments and line ends before a token. -/
def skipToToken : Nat → TokenReader Unit
  | 0 => return
  | fuel + 1 => do
    lift Reader.skipSpaces
    lift Reader.skipComment
    if !(← lift Reader.readBreak).isEmpty then
      if (← get).depth = 0 then allowKey true
      skipToToken fuel

/-- Whether a plain scalar begins with a character that stands before another. -/
def startsPlain (flow : Bool) (c : Char) (next : Option Char) : Bool :=
  !(endsWord (some c) || "-?:,[]\x7b\x7d#&*!|>'\"%@\x60".toList.contains c) ||
    (!endsWord next && (c == '-' || (!flow && (c == '?' || c == ':'))))

/-- A scalar on the way to a token, before which a key may begin. -/
def readText (r : Reader Text) : TokenReader Unit := do
  markKey
  allowKey false
  let t ← lift r
  add (.scalar t false)

def readPlainText : TokenReader Unit := do
  markKey
  let l ← get
  let fuel := (← place).rest.length + 1
  let (cs, crossed) ← lift (readPlain (l.depth != 0) l.margin fuel [] [] false)
  allowKey crossed
  add (.scalar (Text.ofChars cs) true)

def readBlockText (fold : Bool) : TokenReader Unit := do
  allowKey true
  dropKey
  let l ← get
  let cs ← lift do
    Reader.forward 1
    readBlock fold l.margin
  add (.scalar (Text.ofChars cs) false)

/-- A name or a tag before which a key may begin. -/
def readMark (r : Reader Token) : TokenReader Unit := do
  markKey
  allowKey false
  let t ← lift r
  add t

/-- The next token; no more if the answer is false. -/
def readToken : TokenReader Bool := do
  let start ← place
  -- a mark of the byte order may stand before all else
  if start.index = 0 ∧ start.rest.head? = some '\uFEFF' then lift (Reader.forward 1)
  skipToToken (start.rest.length + 1)
  dropStaleKeys
  let p ← place
  endBlocks (p.column + 1)
  let flow := (← get).depth != 0
  let single := flow || endsWord (p.peek 1)
  match p.rest with
  | [] => endAll; modify (fun l => { l with keys := [] }); add .streamEnd; return false
  | c :: _ =>
    let quoted (q : Char) : Reader Text := do
      Reader.forward 1
      readQuoted q (p.rest.length + 1) []
    let named (f : String → Token) : Reader Token := do
      Reader.forward 1
      return f (← readAnchorName)
    -- marks of a document come before the signs that they begin with
    if c = '%' ∧ p.column = 0 then
      endAll
      let d ← lift readDirective
      add (.directive d)
    else if p.column = 0 ∧ p.atMark '-' then endAll; pass 3 .documentStart
    else if p.column = 0 ∧ p.atMark '.' then endAll; pass 3 .documentEnd
    else if c = '[' then openFlow .flowSequenceStart
    else if c = '\x7b' then openFlow .flowMappingStart
    else if c = ']' then closeFlow .flowSequenceEnd
    else if c = '\x7d' then closeFlow .flowMappingEnd
    else if c = ',' then allowKey true; dropKey; pass 1 .flowEntry
    else if c = '-' ∧ endsWord (p.peek 1) then openItem .sequenceStart .blockEntry true
    else if c = '?' ∧ single then openItem .mappingStart .key !flow
    else if c = ':' ∧ single then readValueMark
    else if c = '*' then readMark (named .alias)
    else if c = '&' then readMark (named .anchor)
    else if c = '!' then readMark do
      let (handle, suffix) ← readTag
      return .tag handle suffix
    else if c = '|' ∧ !flow then readBlockText false
    else if c = '>' ∧ !flow then readBlockText true
    else if c = '\'' ∨ c = '"' then readText (quoted c)
    else if startsPlain flow c (p.peek 1) then readPlainText
    else refuse
    return true

end TokenReader

/-- The tokens from a place on, with why there are no more if the text is refused. -/
def readSlots : Nat → Layout → Place → Array Slot × Option Fault
  | 0, l, p => (l.slots, some p.fault)
  | fuel + 1, l, p =>
    match (TokenReader.readToken.run l).run p with
    | .error f => (l.slots, some f)
    | .ok ((true, l), p) => readSlots fuel l p
    | .ok ((false, l), _) => (l.slots, none)

def isAllowed (c : Char) : Bool :=
  let n := c.toNat
  n = 0x09 || n = 0x0A || n = 0x0D || (0x20 ≤ n && n ≤ 0x7E) || n = 0x85 ||
    (0xA0 ≤ n && n ≤ 0xD7FF) || (0xE000 ≤ n && n ≤ 0xFFFD) || 0x10000 ≤ n

/-- A token with the fault of a document in which it is out of place. -/
structure Placed where
  token : Token
  refusal : Fault

/-- The tokens of a document, and why there are no more if its text is refused. -/
def tokens (cs : List Char) : List Placed × Option Fault :=
  let (slots, fault?) := readSlots (cs.length + 1) {} ⟨cs, 0, 0, 0⟩
  (slots.toList.flatMap fun s => (s.announced ++ [s.token]).map fun t => ⟨t, s.place.fault⟩, fault?)

end MarkTex.Config.Yaml
