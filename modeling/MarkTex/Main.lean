import MarkTex.Command.Reach
import MarkTex.Command.Run

/-!
# The program

The files that the command can reach are read, the command runs on them, and the files that it has
changed are written.
-/

namespace MarkTex.Program

/-- What an action gives, if it does not fail. -/
def attempt (a : IO α) : IO (Option α) :=
  tryCatch (some <$> a) fun _ => pure none

/-- The location of the system that a location leads to, if anything is there. -/
def realLocation? (l : Location) : IO (Option Location) := do
  let real? ← attempt (IO.FS.realPath (Path.ofLocation l).toString)
  return real?.map fun real => (Path.ofString real.toString).names

/-- A store in which a location leads to the directory that it leads to in the system. -/
def withReal (s : Store) (l real : Location) : Store :=
  let s := s.withDirectories real
  if real = l then s else (s.withDirectories l.dropLast).insert l (.link (.ofLocation real))

/-- What stands at a path of the system, put into a store. A path that leads elsewhere is a link. -/
def observe (directory : Location) (s : Store) (p : Path) : IO Store := do
  let plain := (Log.plainPath directory p).names
  match ← realLocation? plain with
  | some real =>
    match ← attempt (IO.FS.readBinFile (Path.ofLocation real).toString) with
    | some bytes =>
      let s := (s.withDirectories real.dropLast).put real bytes.toList
      return if real = plain then s
        else (s.withDirectories plain.dropLast).insert plain (.link (.ofLocation real))
    | none => return withReal s plain real
  | none =>
    match ← realLocation? plain.dropLast with
    | some real => return withReal s plain.dropLast real
    | none => return s

/-- The files of a store that differ from those of another. -/
def changes (before after : Store) : List (Location × List UInt8) :=
  after.entries.filterMap fun e =>
    match e.2 with
    | .file content => if before.find? e.1 = some (.file content) then none else some (e.1, content)
    | _ => none

def environment : IO (List (String × String)) :=
  Command.variableNames.filterMapM fun name => do
    return (← IO.getEnv name).map fun value => (name, value)

end MarkTex.Program

open MarkTex in
/-- Runs the command on the words of its line. -/
def main (line : List String) : IO UInt32 := do
  let directory := (Path.ofString (← IO.currentDir).toString).names
  let environment ← Program.environment
  let files ← (Command.reachable directory environment line).foldlM (Program.observe directory)
    (Store.empty.withDirectories directory)
  let out ← IO.getStdout
  let host : Host :=
    { files, directory, environment, inventory := Command.ownInventory
      terminal := ← out.isTty, clock := toString (← IO.monoMsNow), lapse := "0.00" }
  let (result, after) := (Command.run line).runOn host
  for change in Program.changes files after.files do
    IO.FS.writeBinFile (Path.ofLocation change.1).toString (ByteArray.mk change.2.toArray)
  out.putStr after.printed.toString
  (← IO.getStderr).putStr after.complaints.toString
  match result with
  | .ok (.returned code) => return code.toUInt32
  | .ok (.exited code) => return code.toUInt32
  | .error e =>
    (← IO.getStderr).putStr (Command.failureLine e.message).toString
    return 1
