import MarkTex.Command.Flags
import MarkTex.Command.Line
import MarkTex.Command.Report
import MarkTex.Config.Discovery
import MarkTex.Convert.Convert
import MarkTex.Settings.FromConfig

/-!
# Running the command

The command reads its line, sets up the log, puts the options together and converts one file. How it ends
is a number: zero for a success, and for a failure the number of its kind.
-/

namespace MarkTex.Command

open Config (Value)

/-- How a command ends: it runs to its end, or its line ends it early. -/
inductive Ending where
  | returned (code : Nat)
  | exited (code : Nat)
deriving DecidableEq

/-- The number that stands for an input that cannot be used. -/
def invalidInput : Nat := 3

/-- The number that stands for a line that cannot be read. -/
def invalidLine : Nat := 2

/-- The string that an argument has, if it has one that is not empty. -/
def textOf? (vs : Values) (dest : String) : Option String :=
  match vs.find dest with
  | .str t => if t.isEmpty then none else some t.toString
  | _ => none

def isGiven (vs : Values) (dest : String) : Bool := (vs.find dest).isTruthy

/-- What is printed where the reading of a line stops, and the number that the command ends with. -/
def stopWith (g : Grammar) (s : Stop) : Action Nat := do
  let width := columns (← get) - 2
  match s with
  | .help =>
    modify fun h => h.print (Text.ofString (help g width))
    return 0
  | .version text =>
    modify fun h => h.print (Text.ofString (text ++ "\n"))
    return 0
  | .refused message =>
    modify fun h => h.complain
      (Text.ofString (usage g width ++ g.program ++ ": error: " ++ message ++ "\n"))
    return invalidLine

/-- The values of the arguments on a line, or the number that the command ends with. -/
def readCommandLine (line : List String) : Action (Except Nat Values) := do
  let as ← arguments
  match readArguments as line with
  | .ok vs => return .ok vs
  | .error s => return .error (← stopWith (grammarOf as) s)

/-- Names that stand for something other than a level where levels are looked up. Ordinary remarks are
logged then. -/
def otherNames : List String := ["BASIC_FORMAT", "_STYLES"]

/-- The level that the log is set to: details if lines are traced, or if more is wanted and no level is
given, else the level named. -/
def logLevel (vs : Values) : Except Fault Int :=
  let level := vs.find "log_level"
  if isGiven vs "trace" then .ok Log.debug
  else
    match level with
    | .str t =>
      if isGiven vs "verbose" ∧ t = Text.ofString "WARNING" then .ok Log.debug
      else
        let name := upperCase t.toChars
        match Log.level? (String.ofList name) with
        | some n => .ok n
        | none =>
          if otherNames.contains (String.ofList name) then .ok Log.info
          else .error (.unknownLevel (Text.ofChars name))
    | v => .error (.noMember v.typeName "upper")

def setUpLog (vs : Values) : Action Unit := do
  match logLevel vs with
  | .error f => Action.failBeneath f
  | .ok level => Log.configure level ((textOf? vs "log_file").getD "") (isGiven vs "trace")

/-- The field of a name with the truth value that its flag sets, if it sets one. -/
def fieldFlag? (vs : Values) (name : String) : Option (String × Bool) :=
  match vs.find name with
  | .bool b => some (name, b)
  | _ => none

def fieldFlags (vs : Values) : List (String × Bool) :=
  (readerSwitches ++ writerSwitches).filterMap fun f => fieldFlag? vs f.1

def readConfig (vs : Values) : Action Config.Entries := do
  if isGiven vs "no_config" then return []
  Action.preferredConfig (textOf? vs "config") ((← get).env? Config.fileVariable)

def optionsOf (vs : Values) (entries : Config.Entries) :
    Action (Markdown.ParseOptions × Latex.RenderOptions) :=
  match Config.options entries (fieldFlags vs) with
  | .ok o => return o
  | .error e => throw e

/-- The options that the command works with, or why the configuration cannot be used. -/
def readOptions (vs : Values) :
    Action (Except ConfigFault (Markdown.ParseOptions × Latex.RenderOptions)) :=
  try
    let entries ← readConfig vs
    let options ← optionsOf vs entries
    pure (.ok options)
  catch e =>
    match e with
    | .config f => pure (.error f)
    | e => throw e

/-- Where the output goes: to the path given, else to the default for the input. -/
def outputOf (vs : Values) (input : Path) : Except Error Path :=
  match textOf? vs "output" with
  | some name => .ok (Path.ofString name)
  | none => defaultOutput input

def commandOrigin : String := "md2tex.cli"

/-- How a failure to convert is told. One of the library's own says what it is. -/
def failureMessage (e : Error) : Text :=
  if e.kind?.isNone then Text.ofString "Unexpected error: " ++ e.message else e.message

def convertFile (input output : Path) (reader : Markdown.ParseOptions) (writer : Latex.RenderOptions)
    (inPanel : Bool) : Action Verdict := do
  Action.record commandOrigin Log.info
    (Text.ofString ("Converting " ++ input.toString ++ " to " ++ output.toString))
  let failure? ←
    try
      let _ ← Action.convert (.path input) (some (.path output)) (some (.markdown reader))
        (some (.latex writer))
      pure none
    catch e => pure (some e)
  match failure? with
  | none => return .converted input output inPanel
  | some e =>
    if e.kind?.isNone then
      Action.note commandOrigin (Text.ofString "Unexpected error during conversion")
    return .failed (failureMessage e) e.exitCode

/-- What the command does with the values of its arguments, up to the report. -/
def verdict (vs : Values) : Action Verdict := do
  match textOf? vs "input" with
  | none => return .failed (Text.ofString "Input file is required") invalidInput
  | some name =>
    setUpLog vs
    match ← readOptions vs with
    | .error f => return .failed f.message (Error.config f).exitCode
    | .ok (reader, writer) =>
      let input := Path.ofString name
      let output ← outputOf vs input
      -- another name for the input counts as the input
      if (← Action.resolve input) = (← Action.resolve output) then
        return .failed
          (Text.ofString ("Output path would overwrite the input file: " ++ input.toString))
          invalidInput
      let inPanel := usesPanel (isGiven vs "rich") (← get).terminal
      convertFile input output reader writer inPanel

/-- What the command does with the values of its arguments. -/
def runWith (vs : Values) : Action Nat := do
  let v ← verdict vs
  v.report
  return v.code

/-- Runs the command on the words of its line. -/
def run (line : List String) : Action Ending := do
  match ← readCommandLine line with
  | .error code => return .exited code
  | .ok vs => return .returned (← runWith vs)

end MarkTex.Command
