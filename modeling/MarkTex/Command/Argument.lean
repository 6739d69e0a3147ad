import MarkTex.Config.Display
import MarkTex.Host.Log
import MarkTex.Text.Integer

/-!
# Arguments of a command

What a command takes on its line: arguments that stand in a place of their own, and arguments that a flag
announces. An argument can take its default from a variable of the environment; what is given on the line
takes precedence.
-/

namespace MarkTex.Command

open Config (Value)

/-- How many words an argument takes. -/
inductive Arity where
  | none
  | one
  | optional
deriving DecidableEq

/-- What giving an argument does. -/
inductive Effect where
  /-- Keeps the word given. -/
  | store
  | keep (v : Value)
  | showHelp
  | showVersion (text : String)

/-- An argument. One without flags has a place of its own. -/
structure Argument where
  flags : List String := []
  /-- The name under which the value is kept. -/
  dest : String
  arity : Arity := .one
  effect : Effect := .store
  /-- Whether the word has to be a whole number. -/
  integer : Bool := false
  /-- The values allowed, if not all are. -/
  choices : Option (List Value) := none
  default : Value := .null
  required : Bool := false
  /-- The name of the word in a description. -/
  placeholder : Option String := none
  help : String := ""
  /-- The heading under which the argument is described. -/
  group : Option String := none

namespace Argument

/-- The name of an argument in messages. -/
def name (a : Argument) : String :=
  if a.flags.isEmpty then a.placeholder.getD a.dest else "/".intercalate a.flags

/-- The same argument, recognised by its flags and its destination. -/
def same (a b : Argument) : Bool := a.flags == b.flags && a.dest == b.dest

/-- An argument that is true if its flag is given. -/
def switch (flags : List String) (dest help : String) : Argument :=
  { flags, dest, help, arity := .none, effect := .keep (.bool true), default := .bool false }

/-- An argument that is false if its flag is given. -/
def disable (flags : List String) (dest help : String) : Argument :=
  { flags, dest, help, arity := .none, effect := .keep (.bool false), default := .bool true }

end Argument

/-! ## Destinations and the environment -/

def underscored (s : String) : String :=
  String.ofList (s.toList.map fun c => if c = '-' then '_' else c)

/-- The destination that a long flag stands for; if a flag that denies something stands for what it
denies, its first part does not count. -/
def destOfFlag? (denials : Bool) (flag : String) : Option String :=
  if denials && flag.startsWith "--no-" then some (underscored (String.ofList (flag.toList.drop 5)))
  else if flag.startsWith "--" then some (underscored (String.ofList (flag.toList.drop 2)))
  else none

/-- The destination of an argument: the one given, else that of its first long flag. -/
def inferDest? (flags : List String) (given : Option String) (denials : Bool) : Option String :=
  given <|> flags.findSome? (destOfFlag? denials)

/-- What the variables of the environment that concern this command begin with. -/
def variableStart : String := "MD2TEX_"

def variableName (dest : String) : String :=
  variableStart ++ underscored (String.ofList (upperCase dest.toList))

def trueTexts : List String := ["true", "1", "yes", "on"]

def isTrueText (s : String) : Bool := trueTexts.contains (lowerString s)

def environmentOrigin : String := "md2tex.cli.actions"

/-- The argument with the value that a text gives it as its default. A text that is no value leaves the
argument as it is, with a warning. -/
def Argument.withDefault (a : Argument) (key text : String) : Action Argument :=
  match a.effect with
  | .store =>
    if a.integer then
      match Integer.ofText? 10 (Text.ofString text) with
      | some n => return { a with default := .int n }
      | none => do
        Action.record environmentOrigin Log.warning (Text.ofString
          ("Invalid environment variable " ++ key ++ "=" ++ text ++ ": " ++
            Integer.refusal 10 (Text.ofString text)))
        return a
    else return { a with default := .str (Text.ofString text) }
  | _ => return { a with default := .bool (isTrueText text) }

/-- The argument with the default that the environment has for it. -/
def Argument.fromEnvironment (a : Argument) : Action Argument := do
  if a.dest = "" then return a
  let key := variableName a.dest
  match (← get).env? key with
  | some text => a.withDefault key text
  | none => return a

end MarkTex.Command
