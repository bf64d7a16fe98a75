import ListView.Decimal.Layout
import ListView.Decimal.Reader
import ListView.Filter.Basic

/-!
# Typed values

The type of a value is guessed from its text: `true` and `false`, then numbers
that a double can hold, then plain text.
-/

namespace ListView

inductive FilterValue where
  | bool (b : Bool)
  | number (x : Float)
  | text (s : String)

namespace FilterValue

def coerce (raw : String) : FilterValue :=
  if raw = "true" then bool true
  else if raw = "false" then bool false
  else match Decimal.readFloat raw.toList with
    | some x => number x
    | none => text raw

def number? : FilterValue → Option Float
  | number x => some x
  | _ => none

def print : FilterValue → String
  | bool b => if b then "true" else "false"
  | number x => Decimal.plain.write x
  | text s => s

def toJson : FilterValue → Json
  | bool b => .bool b
  | number x => .float x
  | text s => .string s

end FilterValue

def Filter.valueOf? (f : Filter) (keyword : String) : Option FilterValue :=
  (f.get? keyword).map FilterValue.coerce

end ListView
