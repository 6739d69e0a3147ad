import MarkTex.Command.Flags
import MarkTex.Config.Discovery
import MarkTex.Convert.Convert

/-!
# What a command can reach

The files that a command may read or write can be told from its line and the environment before it runs:
those that words of the line name, the outputs that go with them, and the configuration files of the
directories that are searched.
-/

namespace MarkTex.Command

/-- The words of a line that may name a file: the words themselves, and what is attached to flags. -/
def namesOn (line : List String) : List String :=
  line.flatMap fun word =>
    match (word.toList.dropWhile (· != '=')) with
    | _ :: rest => [word, String.ofList rest]
    | [] => [word]

/-- The paths that a name leads to: the file named, and the output that goes with it. -/
def pathsOfName (name : String) : List Path :=
  let p := Path.ofString name
  match defaultOutput p with
  | .ok output => [p, output]
  | .error _ => [p]

def configPaths (directory : Path) : List Path :=
  (Config.fileNames ++ [Config.projectFile]).map directory.child

/-- The directories from a location up to the root. -/
def upward (l : Location) : List Path :=
  (List.range (l.length + 1)).map fun n => Path.ofLocation (l.take n)

def variableNames : List String :=
  ["HOME", "COLUMNS", Config.fileVariable] ++ origins.map fun o =>
    match o with
    | .line a | .lineOrEnvironment a => variableName a.dest

/-- The paths that a command can reach from a directory. -/
def reachable (directory : Location) (environment : List (String × String)) (line : List String) :
    List Path :=
  let home := (environment.find? (·.1 = "HOME")).bind fun e => Config.homePath? e.2
  let named := namesOn line ++ environment.map (·.2)
  (named.filter (· ≠ "")).flatMap pathsOfName ++ (upward directory).flatMap configPaths ++
    (home.map configPaths).getD []

/-- The packages at hand to the command, which brings its own readers. -/
def ownInventory : Package.Inventory where
  importable := ["mistune", "bs4"]
  installed := [("mistune", "3.4.0"), ("beautifulsoup4", "4.15.0")]

end MarkTex.Command
