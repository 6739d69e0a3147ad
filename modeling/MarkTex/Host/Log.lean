import MarkTex.Host.State
import MarkTex.Text.Case

/-!
# The log

A remark has a level and an origin. Until the log is set up, warnings and worse go to the screen as
they are; afterwards every remark of the set level or above is a line that shows its level.
-/

namespace MarkTex

namespace Log

def debug : Int := 10

def info : Int := 20

def warning : Int := 30

/-- The names of levels. A level is shown under the first of its names. -/
def levels : List (String × Int) :=
  [("CRITICAL", 50), ("FATAL", 50), ("ERROR", 40), ("WARNING", 30), ("WARN", 30), ("INFO", 20),
   ("DEBUG", 10), ("NOTSET", 0)]

/-- The level of a name in upper case. -/
def level? (name : String) : Option Int := (levels.find? (·.1 = name)).map (·.2)

/-- The level that a name in any case of letters stands for; any other name stands for ordinary
remarks. -/
def levelNamed (name : Text) : Int := (level? (String.ofList (upperCase name.toChars))).getD info

def levelName (level : Int) : String :=
  match levels.find? (·.2 = level) with
  | some e => e.1
  | none => "Level " ++ toString level

def line (s : LogSetting) (clock origin : String) (level : Int) (message : Text) : Text :=
  let head :=
    if s.trace then "[" ++ clock ++ "] [" ++ levelName level ++ "] [" ++ origin ++ "] "
    else levelName level ++ ": "
  Text.ofString head ++ message ++ Text.ofString "\n"

end Log

/-- How many places lines of the log go to. -/
def LogSetting.handlerCount (s : LogSetting) : Nat := if s.file.isSome then 2 else 1

namespace Host

def logs (h : Host) (level : Int) : Bool :=
  match h.log with
  | none => Log.warning ≤ level
  | some s => s.level ≤ level

/-- The host after a remark. A remark that has no UTF-8 form does not reach the file. -/
def record (h : Host) (origin : String) (level : Int) (message : Text) : Host :=
  if !h.logs level then h
  else
    match h.log with
    | none => h.complain (message ++ Text.ofString "\n")
    | some s =>
      let line := Log.line s h.clock origin level message
      let h := h.complain line
      match s.file, Encoding.utf8OfText line with
      | some l, .ok bytes => { h with files := h.files.append l bytes }
      | _, _ => h

/-- The file that lines of the log go to. -/
def logFile? (h : Host) : Option Location := h.log.bind (·.file)

/-- A remark changes nothing but what is printed as errors and the log file. -/
theorem record_eq (h : Host) (origin : String) (level : Int) (message : Text) :
    ∃ complaints files, h.record origin level message = { h with complaints, files } ∧
      (h.logFile? = none → files = h.files) := by
  unfold record
  split
  · exact ⟨_, _, rfl, fun _ => rfl⟩
  · split
    · exact ⟨_, _, rfl, fun _ => rfl⟩
    next s hlog =>
      dsimp only
      split
      next l _ hfile _ =>
        refine ⟨_, _, rfl, fun hnone => ?_⟩
        simp [logFile?, hlog, hfile] at hnone
      · exact ⟨_, _, rfl, fun _ => rfl⟩

end Host

namespace Action

def record (origin : String) (level : Int) (message : Text) : Action Unit :=
  modify fun h => h.record origin level message

/-- Makes a remark on a detail. -/
def note (origin : String) (message : Text) : Action Unit := record origin Log.debug message

/-- Does something and notes the time it took, if details are logged when it begins. -/
def timed (origin stage : String) (a : Action α) : Action α := do
  let wanted := (← get).logs Log.debug
  let x ← a
  if wanted then
    note origin (Text.ofString (stage ++ " completed in " ++ (← get).lapse ++ "s"))
  return x

end Action

namespace Log

/-- The file that a path names, its upward steps taken as they are. -/
def plainPath (directory : Location) (p : Path) : Path :=
  let start := if p.root = .relative then directory else []
  ⟨if p.root = .doubled then .doubled else .absolute, Store.resolveNames.tidy start p.names⟩

/-- Opens the log file. A file that cannot be opened is a warning. -/
def openFile (s : LogSetting) (name : String) : Action Unit := do
  if name.contains '\x00' then Action.failBeneath .nullInPath
  let h ← get
  let p := plainPath h.directory (.ofString name)
  match h.files.target h.directory p with
  | .error f =>
    Action.record "root" warning
      (Text.ofString ("Could not create log file " ++ name ++ ": " ++ f.message p))
  | .ok l =>
    -- opening makes the file if there is none
    modify fun h => { h with files := h.files.append l [], log := some { s with file := some l } }
    Action.record "root" info (Text.ofString ("Logging to file: " ++ name))

/-- Sets up the log: its level, a file if a name is given, and whether lines are traced. -/
def configure (level : Int) (file : String) (trace : Bool) : Action Unit := do
  let s : LogSetting := ⟨level, trace, none⟩
  modify fun h => { h with log := some s }
  if file ≠ "" then openFile s file

end Log

end MarkTex
