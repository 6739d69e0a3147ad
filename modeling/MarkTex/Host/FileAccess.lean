import MarkTex.Host.Log

/-!
# Reading and writing files

Reading and writing are whole: a source is read before anything is made of it, and output is written
at once when it is finished. Opening a file for writing empties it.
-/

namespace MarkTex

/-- Whether a path holds a null character, which no system takes. -/
def Path.hasNull (p : Path) : Bool := p.names.any fun n => n.toList.contains '\x00'

namespace Host

/-- What a path leads to, if it leads anywhere. Names that are too long are a fault even so. -/
def found? (h : Host) (p : Path) : Except PathFault (Option Entry) :=
  if p.hasNull then .ok none
  else
    match h.files.entryAt h.directory p with
    | .ok e => .ok (some e)
    | .error .nameTooLong => .error .nameTooLong
    | .error _ => .ok none

def isFile (h : Host) (p : Path) : Except PathFault Bool :=
  (h.found? p).map fun
    | some (.file _) => true
    | _ => false

end Host

namespace Action

def found? (p : Path) : Action (Option Entry) := do
  match (← get).found? p with
  | .ok e => return e
  | .error f => failBeneath (.path f p)

/-- The location that a path stands for with all links followed. -/
def resolve (p : Path) : Action Location := do
  if p.hasNull then failBeneath .nullInPath
  let h ← get
  match h.platform.resolving p with
  | some r => throw (.refused r)
  | none =>
    match h.files.resolve h.directory p with
    | .ok l => return l
    | .error circle => failBeneath (.linkCircle circle)

/-- What comes of decoding bytes under a name by the reader of a codec: bytes that it cannot decode are a
failure as for any codec, and its other failures are passed on. -/
def decoded (name : Text) : Except Fault Text → Except Error Text
  | .ok t => .ok t
  | .error (.badBytes f) => .error (.undecodable name (.malformed f))
  | .error f => .error (.beneath f)

/-- The text of bytes in an encoding. A codec that this library does not read needs a reader on the
host. -/
def decodeText (bs : List UInt8) (encoding : Text) : Action Text := do
  let name := Encoding.sourceEncoding encoding
  match Encoding.decodeNamed name bs with
  | .ok cs => return Text.ofChars cs
  | .error (.nameFault f) => failBeneath (.encodingName f)
  | .error (.unread codec) =>
    match (← get).platform.codec? codec with
    | some read => liftM (decoded name (read bs))
    | none => throw (.undecodable name (.unread codec))
  | .error u => throw (.undecodable name u)

def readText (p : Path) (encoding : Text) : Action Text := do
  match ← found? p with
  | none => throw (.fileMissing p)
  | some (.file content) =>
    note "md2tex.utils.io_utils"
      (Text.ofString ("Read " ++ toString content.length ++ " bytes from " ++ p.toString))
    decodeText content encoding
  | some _ => throw (.notRegular p)

/-- Opens a file for writing, which empties it. -/
def openForWriting (p : Path) : Action Location := do
  if p.hasNull then failBeneath .nullInPath
  let h ← get
  match h.files.target h.directory p with
  | .error f => throw (.unwritable p f)
  | .ok l =>
    set { h with files := h.files.put l [] }
    return l

def encodeText (t : Text) : Action (List UInt8) :=
  match Encoding.utf8OfText t with
  | .ok bs => return bs
  | .error u => failBeneath (.unencodable u)

def writeText (content : Text) (p : Path) : Action Unit := do
  let l ← openForWriting p
  let bs ← encodeText content
  modify fun h => { h with files := h.files.put l bs }
  note "md2tex.utils.io_utils"
    (Text.ofString ("Wrote " ++ toString content.length ++ " characters to " ++ p.toString))

end Action

end MarkTex
