import MarkTex.Config.Value
import MarkTex.Text.Quoted

/-!
# Values as text

A value on its own is shown plainly; inside another value a text is quoted.
-/

namespace MarkTex.Config

def Moment.text : Moment → String
  | date t => t
  | time t => t
  | dateTime t => t

def quotedByte (b : UInt8) : String :=
  if b = 0x5C then "\\\\"
  else if b = 0x27 then "\\'"
  else if b = 0x0A then "\\n"
  else if b = 0x0D then "\\r"
  else if b = 0x09 then "\\t"
  else if 0x20 ≤ b ∧ b < 0x7F then String.ofList [Char.ofNat b.toNat]
  else "\\x" ++ paddedHex 2 b.toNat

namespace Value

mutual

/-- A value as it is shown inside another. -/
def shown : Value → String
  | null => "None"
  | bool b => if b then "True" else "False"
  | int i => toString i
  | float x => floatText x
  | str t => quoted t
  | bytes bs => "b'" ++ String.join (bs.map quotedByte) ++ "'"
  | moment m => m.text
  | list vs => "[" ++ ", ".intercalate (shownEach vs) ++ "]"
  | set [] => "set()"
  | set (v :: vs) => "\x7b" ++ ", ".intercalate (shown v :: shownEach vs) ++ "\x7d"
  | pair a b => "(" ++ shown a ++ ", " ++ shown b ++ ")"
  | dict es => "\x7b" ++ ", ".intercalate (shownEntries es) ++ "\x7d"

def shownEach : List Value → List String
  | [] => []
  | v :: vs => shown v :: shownEach vs

def shownEntries : List (Value × Value) → List String
  | [] => []
  | (k, v) :: es => (shown k ++ ": " ++ shown v) :: shownEntries es

end

/-- A value as it is shown on its own. -/
def display : Value → Text
  | str t => t
  | v => Text.ofString v.shown

end Value

end MarkTex.Config
