import MarkTex.Config.Value

/-!
# Dates and times

Dates of the calendar that runs from the year 1 to the year 9999, times of day to the microsecond, and
distances from universal time in minutes.
-/

namespace MarkTex.Config

/-- A date that may not be one of the calendar. -/
structure Date where
  year : Nat
  month : Nat
  day : Nat
deriving DecidableEq

/-- A time of day that may not be one. -/
structure TimeOfDay where
  hour : Nat
  minute : Nat
  second : Nat
  micro : Nat
deriving DecidableEq

/-- Why there is no such date or time. -/
inductive CalendarFault where
  | year (n : Nat)
  | month
  | day
  | hour
  | minute
  | second
  /-- A distance from universal time of a day or more, in minutes. -/
  | offset (minutes : Int)
deriving DecidableEq

def CalendarFault.message : CalendarFault → String
  | year n => "year " ++ toString n ++ " is out of range"
  | month => "month must be in 1..12"
  | day => "day is out of range for month"
  | hour => "hour must be in 0..23"
  | minute => "minute must be in 0..59"
  | second => "second must be in 0..59"
  | offset minutes =>
    let days := Int.fdiv minutes 1440
    let seconds := Int.fmod minutes 1440 * 60
    "offset must be a timedelta strictly between -timedelta(hours=24) and timedelta(hours=24), " ++
      "not datetime.timedelta(days=" ++ toString days ++
      (if seconds = 0 then "" else ", seconds=" ++ toString seconds) ++ ")"

def isLeapYear (y : Nat) : Bool := y % 4 = 0 && (y % 100 ≠ 0 || y % 400 = 0)

def daysIn (year month : Nat) : Nat :=
  if month = 2 then (if isLeapYear year then 29 else 28)
  else if month = 4 ∨ month = 6 ∨ month = 9 ∨ month = 11 then 30
  else 31

/-- A number with zeros before it up to a width. -/
def padded (width n : Nat) : String :=
  let ds := Nat.toDigits 10 n
  String.ofList (List.replicate (width - ds.length) '0' ++ ds)

namespace Date

/-- What is wrong with a date, the year looked at first. -/
def fault? (d : Date) : Option CalendarFault :=
  if d.year = 0 ∨ 9999 < d.year then some (.year d.year)
  else if d.month = 0 ∨ 12 < d.month then some .month
  else if d.day = 0 ∨ daysIn d.year d.month < d.day then some .day
  else none

def text (d : Date) : String := padded 4 d.year ++ "-" ++ padded 2 d.month ++ "-" ++ padded 2 d.day

end Date

namespace TimeOfDay

def fault? (t : TimeOfDay) : Option CalendarFault :=
  if 23 < t.hour then some .hour
  else if 59 < t.minute then some .minute
  else if 59 < t.second then some .second
  else none

def text (t : TimeOfDay) : String :=
  padded 2 t.hour ++ ":" ++ padded 2 t.minute ++ ":" ++ padded 2 t.second ++
    (if t.micro = 0 then "" else "." ++ padded 6 t.micro)

/-- The microseconds that the digits after a decimal point stand for; those behind the sixth do not
count. -/
def microOf (ds : List Char) : Nat :=
  let six := ds.take 6
  (six ++ List.replicate (6 - six.length) '0').foldl (fun n d => 10 * n + (d.toNat - 48)) 0

end TimeOfDay

def offsetText (minutes : Int) : String :=
  let n := minutes.natAbs
  (if minutes < 0 then "-" else "+") ++ padded 2 (n / 60) ++ ":" ++ padded 2 (n % 60)

namespace Moment

def ofDate (d : Date) : Except CalendarFault Moment :=
  match d.fault? with
  | some f => .error f
  | none => .ok (.date d.text)

/-- The moment of a date and a time of day, at a distance from universal time if one is given. -/
def ofDateTime (d : Date) (t : TimeOfDay) (offset : Option Int) : Except CalendarFault Moment :=
  match offset.filter fun m => 1440 ≤ m.natAbs with
  | some m => .error (.offset m)
  | none =>
  match d.fault? <|> t.fault? with
  | some f => .error f
  | none => .ok (.dateTime (d.text ++ " " ++ t.text ++ (offset.map offsetText).getD ""))

end Moment

end MarkTex.Config
