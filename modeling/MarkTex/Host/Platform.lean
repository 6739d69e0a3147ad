import MarkTex.Config.Yaml.Document
import MarkTex.Error
import MarkTex.Style.Panel
import MarkTex.Text.Lines

/-!
# The platform

What is asked of the system and of the readers and writers that come with it: the reader of YAML, the
writer of panels, the readers of further codecs, and leave to look at files and to print. A platform
says how each is answered. The default answers with the readers and writers of this library and refuses
nothing.
-/

namespace MarkTex

/-- Why the bytes of a file have no value. -/
inductive Config.ReadFault where
  /-- The reader refuses the text, with a complaint. -/
  | malformed (complaint : Text)
  /-- A failure that is passed on. -/
  | beneath (fault : Fault)
  /-- A refusal that is passed on, such as that of a text nested too deeply. -/
  | refused (refusal : Refusal)

namespace Config.Yaml

/-- Bytes that end too early, counted from where the incomplete character begins. -/
def fromLastCharacter (f : Encoding.DecodeFault) : Encoding.DecodeFault :=
  if f.bad.problem = .unexpectedEnd then { f with bad := { f.bad with position := 0 } } else f

/-- The value of a file in YAML. -/
def readBytes (bs : List UInt8) : Except ReadFault Value :=
  match Encoding.withName "utf-8" (Encoding.utf8Decode bs) with
  | .error f => .error (.beneath (.badBytes (fromLastCharacter f)))
  | .ok cs =>
    match read (unifyLineEnds cs) with
    | .ok v => .ok v
    | .error (.malformed line column) =>
      .error (.malformed (Text.ofString (Fault.malformed line column).message))
    | .error (.value f) => .error (.beneath (.configValue f))

end Config.Yaml

/-- The reader of a codec: the text of bytes, or a failure. -/
abbrev CodecReader := List UInt8 → Except Fault Text

/-- How the system, and the readers and writers that come with it, answer. -/
structure Platform where
  /-- The value of a file in YAML. One that holds itself is unrolled as far as options look into it. -/
  yaml : List UInt8 → Except Config.ReadFault Config.Value := Config.Yaml.readBytes
  /-- The refusal of a text of TOML or JSON that is nested too deeply for its reader. -/
  tooDeep : ConfigFormat → List Char → Option Refusal := fun _ _ => none
  /-- The reader of a codec that this library does not read, if there is one. -/
  codec? : String → Option CodecReader := fun _ => none
  /-- The refusal to tell what stands at a path where a configuration is looked for, such as one in a
  directory that may not be searched. -/
  looking : Path → Option Refusal := fun _ => none
  /-- The refusal to open or to read the file of a configuration. -/
  opening : Path → Option Refusal := fun _ => none
  /-- The refusal to tell which location a path stands for, as when the directory that it leads on from
  is gone. -/
  resolving : Path → Option Refusal := fun _ => none
  /-- The home directory of the user as the system knows it, where the environment names none. -/
  home? : Option String := none
  /-- The refusal to print a text, for characters that the screen lacks or for want of room. -/
  printing : Text → Option Refusal := fun _ => none
  /-- The refusal to print a text as an error. -/
  complaining : Text → Option Refusal := fun _ => none
  /-- A panel as wide as some columns, with a title, a subtitle and a text with tags. -/
  panel : Nat → Text → Text → Text → Except Style.MarkupFault Text :=
    fun columns title subtitle markup =>
      (Style.strip markup).map (Style.panel columns title subtitle)

end MarkTex
