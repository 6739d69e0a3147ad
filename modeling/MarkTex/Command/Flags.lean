import MarkTex.Command.Description
import MarkTex.Settings.Field

/-!
# The arguments of this command

A Markdown file and the file to write come first. Flags switch parts of the reader and the writer off,
name a configuration and set up the log.
-/

namespace MarkTex.Command

open Config (Value)

def programVersion : String := "md2tex 1.0.0"

def textValue (s : String) : Value := .str (Text.ofString s)

/-- The fields of the reader that a flag switches off, with what they do. -/
def readerSwitches : List (String × String) :=
  [("parse_tables", "Parse table syntax (GFM pipe tables)"),
   ("parse_math", "Parse inline and block math ($...$ and $$...$$)"),
   ("parse_strikethrough", "Parse strikethrough syntax (~~text~~)"),
   ("parse_html", "Parse raw HTML embedded in the Markdown")]

/-- The fields of the writer that a flag switches off, with what they do. -/
def writerSwitches : List (String × String) :=
  [("escape_special", "Escape special LaTeX characters"),
   ("restore_math", "Rewrite $$...$$ and $...$ spans as \\[...\\] and \\(...\\)")]

def denialFlag (name : String) : String :=
  "--no-" ++ String.ofList (name.toList.map fun c => if c = '_' then '-' else c)

def denial (group : String) (field : String × String) : Argument :=
  { Argument.disable [denialFlag field.1] field.1 ("Disable: " ++ field.2) with
    default := .null, group := some group }

def levelChoices : List String := ["DEBUG", "INFO", "WARNING", "ERROR"]

/-- An argument that the environment may have a default for, or one that it has no say in. -/
inductive Origin where
  | line (a : Argument)
  | lineOrEnvironment (a : Argument)

/-- The arguments of the command, in the order in which they are described. -/
def origins : List Origin :=
  [.line {
     flags := ["-h", "--help"], dest := "help", arity := .none, effect := .showHelp
     help := "show this help message and exit" },
   .line { dest := "input", arity := .optional, help := "Markdown file to convert" },
   .line {
     dest := "output", arity := .optional
     help := "Output LaTeX file (default: input path with a .tex extension)" },
   .line {
     flags := ["--config"], dest := "config", placeholder := some "PATH"
     help := "Path to configuration file (TOML, YAML or JSON). If not specified, searches for " ++
       ".md2tex.toml, .md2tex.yaml, .md2tex.yml, .md2tex.json or a [tool.md2tex] section in " ++
       "pyproject.toml from the current directory upwards, then in the home directory." },
   .line <| Argument.switch ["--no-config"] "no_config" <|
     "Disable loading of configuration files. Ignores auto-discovered configs, the " ++
       "MD2TEX_CONFIG environment variable, and any --config flag."] ++
  readerSwitches.map (fun f => .lineOrEnvironment (denial "Markdown parsing options" f)) ++
  writerSwitches.map (fun f => .lineOrEnvironment (denial "LaTeX rendering options" f)) ++
  [.lineOrEnvironment <| Argument.switch ["--rich"] "rich" <|
     "Print the conversion summary with rich formatting",
   .line <| Argument.switch ["--verbose", "-v"] "verbose" <|
     "Enable verbose output with detailed logging (equivalent to --log-level DEBUG)",
   .lineOrEnvironment {
     flags := ["--log-level"], dest := "log_level", default := textValue "WARNING"
     choices := some (levelChoices.map textValue)
     help := "Set logging level for debugging (default: WARNING)" },
   .lineOrEnvironment {
     flags := ["--log-file"], dest := "log_file", placeholder := some "PATH"
     help := "Write log messages to specified file in addition to console output" },
   .line <| Argument.switch ["--trace"] "trace" <|
     "Enable trace mode with very verbose logging and per-stage timing information",
   .line {
     flags := ["--version", "-V"], dest := "version", arity := .none
     effect := .showVersion programVersion
     help := "show program's version number and exit" }]

def epilogue : String :=
  "Examples:\n" ++
  "  md2tex notes.md                 # writes notes.tex\n" ++
  "  md2tex notes.md chapter1.tex\n" ++
  "  md2tex notes.md --no-restore-math\n" ++
  "  md2tex notes.md --config md2tex.toml --rich\n" ++
  "\nEnvironment variables:\n" ++
  "  MD2TEX_CONFIG names a configuration file. MD2TEX_<OPTION> sets a default\n" ++
  "  for a flag, e.g. MD2TEX_RESTORE_MATH=false or MD2TEX_LOG_LEVEL=DEBUG.\n"

/-- The arguments of the command with the defaults that the environment has for them. -/
def arguments : Action (List Argument) :=
  origins.mapM fun o =>
    match o with
    | .line a => return a
    | .lineOrEnvironment a => a.fromEnvironment

def grammarOf (arguments : List Argument) : Grammar where
  program := "md2tex"
  summary := "Convert a Markdown document into a LaTeX body fragment"
  arguments := arguments
  epilogue := epilogue

end MarkTex.Command
