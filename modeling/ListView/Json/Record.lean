import ListView.Json.Basic

/-!
# Records in JSON

Typed reading of values. A record is written as an object, of which unknown keys
are ignored, or as an array of its fields in order. A choice is written as its
name, or as an object with that one name and `null`.
-/

namespace ListView.Json

def string? : Json → Option String
  | string s => some s
  | _ => none

def bool? : Json → Option Bool
  | bool b => some b
  | _ => none

/-- A whole number within bounds. -/
def wholeIn? (low high : Int) : Json → Option Int
  | int n => if low ≤ n && n ≤ high then some n else none
  | _ => none

/-- A signed number of 64 bits. -/
def int64? : Json → Option Int := wholeIn? (-0x8000000000000000) 0x7FFFFFFFFFFFFFFF

/-- An unsigned number of so many bits. -/
def unsigned? (bits : Nat) (v : Json) : Option Nat :=
  (wholeIn? 0 (Nat.pow 2 bits - 1) v).map Int.toNat

def listOf? (element : Json → Option α) : Json → Option (List α)
  | array items => items.mapM element
  | _ => none

/-- `null`, or a value of the type. -/
def optional? (element : Json → Option α) : Json → Option (Option α)
  | null => some none
  | v => (element v).map some

def choice? (ofName? : String → Option α) : Json → Option α
  | string s => ofName? s
  | object [(name, null)] => ofName? name
  | _ => none

/-- A field that is left out when it has no value. -/
def optionalField (name : String) (value : Option α) (f : α → Json) : List (String × Json) :=
  match value with
  | some a => [(name, f a)]
  | none => []

structure Record where
  fields : List (String × Json)
  positional : Bool

namespace Record

def of? (names : List String) : Json → Option Record
  | object fields => some ⟨fields, false⟩
  | array items => if items.length ≤ names.length then some ⟨names.zip items, true⟩ else none
  | _ => none

def required? (r : Record) (name : String) (element : Json → Option α) : Option α :=
  (lookup name r.fields).bind element

/-- A field that reads as absent when it is `null` or, in an object, missing. -/
def optional? (r : Record) (name : String) (element : Json → Option α) : Option (Option α) :=
  match lookup name r.fields with
  | some v => Json.optional? element v
  | none => if r.positional then none else some none

def withDefault? (r : Record) (name : String) (default : α) (element : Json → Option α) :
    Option α :=
  match lookup name r.fields with
  | some v => element v
  | none => some default

end Record

end ListView.Json
