import MarkTex.Text.CodePoint
import MarkTex.Text.Shortest

/-!
# Configuration values

What a configuration file holds: the values that TOML, YAML and JSON have between them. A mapping
keeps its entries in the order in which their keys came first; a later value for a key that is there
takes the place of the earlier one.
-/

namespace MarkTex.Config

/-- A point in time as TOML and YAML write them, kept as the kind of value and its standard text. -/
inductive Moment where
  | date (text : String)
  | time (text : String)
  | dateTime (text : String)
deriving DecidableEq

inductive Value where
  | null
  | bool (b : Bool)
  | int (i : Int)
  | float (x : Float)
  | str (t : Text)
  | bytes (bs : List UInt8)
  | moment (m : Moment)
  | list (items : List Value)
  | set (items : List Value)
  | pair (first second : Value)
  | dict (entries : List (Value × Value))
deriving Inhabited

namespace Value

def typeName : Value → String
  | null => "NoneType"
  | bool _ => "bool"
  | int _ => "int"
  | float _ => "float"
  | str _ => "str"
  | bytes _ => "bytes"
  | moment (.date _) => "date"
  | moment (.time _) => "time"
  | moment (.dateTime _) => "datetime"
  | list _ => "list"
  | set _ => "set"
  | pair _ _ => "tuple"
  | dict _ => "dict"

/-- The number that a value counts as when it is a key; truth values count as zero and one. -/
def keyNumber? : Value → Option Int
  | bool b => some (if b then 1 else 0)
  | int i => some i
  | float x =>
    if x.floor == x && x.abs < 9007199254740992.0 then
      some (if x < 0 then -(Int.ofNat (-x).toUInt64.toNat) else Int.ofNat x.toUInt64.toNat)
    else none
  | _ => none

mutual

/-- Whether two values are the same key of a mapping. -/
def sameKey : Value → Value → Bool
  | null, null => true
  | str s, str t => s == t
  | bytes s, bytes t => s == t
  | moment s, moment t => s == t
  | pair a b, pair c d => sameKey a c && sameKey b d
  | list as, list bs => sameKeys as bs
  | float x, float y => x == y
  | a, b =>
    match a.keyNumber?, b.keyNumber? with
    | some i, some j => i == j
    | _, _ => false

def sameKeys : List Value → List Value → Bool
  | [], [] => true
  | a :: as, b :: bs => sameKey a b && sameKeys as bs
  | _, _ => false

end

def find? (entries : List (Value × Value)) (key : Value) : Option Value :=
  (entries.find? fun e => sameKey e.1 key).map (·.2)

def insert (entries : List (Value × Value)) (key value : Value) : List (Value × Value) :=
  match entries with
  | [] => [(key, value)]
  | e :: rest => if sameKey e.1 key then (e.1, value) :: rest else e :: insert rest key value

def get? (entries : List (Value × Value)) (key : String) : Option Value :=
  find? entries (str (Text.ofString key))

/-- Whether a value counts as true where a truth value is wanted. -/
def isTruthy : Value → Bool
  | null => false
  | bool b => b
  | int i => i != 0
  | float x => x != 0.0
  | str t => !t.isEmpty
  | bytes bs => !bs.isEmpty
  | moment _ => true
  | list vs => !vs.isEmpty
  | set vs => !vs.isEmpty
  | pair _ _ => true
  | dict es => !es.isEmpty

end Value

end MarkTex.Config
