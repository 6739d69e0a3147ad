import MarkTex.Host.State
import MarkTex.Text.Integer

/-!
# Reporting to the user

What a command comes to and how it tells: a line for a success, or a panel if that is wanted and output
goes to a terminal, and a line for a failure. The system may refuse to print them.
-/

namespace MarkTex.Command

/-- How many columns the screen has: as many as the environment says, if it does. -/
def columns (h : Host) : Nat :=
  match (h.env? "COLUMNS").bind fun s => Integer.ofText? 10 (Text.ofString s) with
  | some n => if 0 < n then n.toNat else h.columns
  | none => h.columns

/-- Whether a success is reported in a panel. -/
def usesPanel (wanted terminal : Bool) : Bool := wanted && terminal

def successLine (input output : Path) : Text :=
  Text.ofString ("Converted " ++ input.toString ++ " to " ++ output.toString ++ "\n")

def successMarkup (input output : Path) : Text :=
  Text.ofString
    ("[bold]" ++ input.toString ++ "[/bold] -> [bold green]" ++ output.toString ++ "[/bold green]")

/-- The panel for a success, as wide as a host allows. -/
def successPanel (h : Host) (input output : Path) : Except Style.MarkupFault Text :=
  h.platform.panel (columns h) (Text.ofString "md2tex") (Text.ofString "Converted")
    (successMarkup input output)

def reportSuccess (input output : Path) (inPanel : Bool) : Action Unit := do
  if inPanel then
    match successPanel (← get) input output with
    | .error f => Action.failBeneath (.markup f)
    | .ok panel => Action.print panel
  else Action.print (successLine input output)

def failureLine (message : Text) : Text := Text.ofString "Error: " ++ message ++ Text.ofString "\n"

def reportFailure (message : Text) : Action Unit := Action.complain (failureLine message)

/-- What a run comes to. -/
inductive Verdict where
  /-- A file is converted, which is told in a panel or in a line. -/
  | converted (input output : Path) (inPanel : Bool)
  /-- A failure, with the number that stands for it. -/
  | failed (message : Text) (code : Nat)

/-- The number that a run with a verdict ends with. -/
def Verdict.code : Verdict → Nat
  | converted _ _ _ => 0
  | failed _ code => code

def Verdict.report : Verdict → Action Unit
  | converted input output inPanel => reportSuccess input output inPanel
  | failed message _ => reportFailure message

end MarkTex.Command
