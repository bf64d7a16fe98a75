import ListView.Decimal.Reader
import ListView.Json.Writer
import ListView.Text.Blank

/-!
# Elements of a response

A response was markup once: an element is an object whose attributes have keys
with a leading underscore, and whose text, if it has attributes too, stands
under `__text`. Numbers and flags may be spelled as texts.
-/

namespace ListView.Element

def textKey : String := "__text"

/-! ## Finding elements -/

/-- The child with this key, unless it is `null`. -/
def child? (node : Json) (key : String) : Option Json :=
  match node with
  | .object fields => (Json.lookup key fields).filter (!·.isNull)
  | _ => none

/-- The element at the end of a path of keys. -/
def path? (node : Json) (keys : List String) : Option Json := keys.foldlM child? node

@[simp] theorem path?_nil (node : Json) : path? node [] = some node := rfl

/-- An attribute, under its name with an underscore or else without. -/
def attribute? (node : Json) (name : String) : Option Json :=
  match child? node ("_" ++ name) with
  | some v => some v
  | none => child? node name

/-! ## What an element says -/

mutual

/-- What stands inside all wrappers of an element; `null` if one of them is empty. -/
def content : Json → Json
  | .object fields => contentOf fields
  | v => v

def contentOf : List (String × Json) → Json
  | [] => .null
  | (k, v) :: rest => if k = textKey then content v else contentOf rest

end

theorem contentOf_eq (fields : List (String × Json)) :
    contentOf fields = (Json.lookup textKey fields).elim .null content := by
  induction fields with
  | nil => simp [contentOf]
  | cons f rest ih =>
    obtain ⟨k, v⟩ := f
    by_cases h : k = textKey <;> simp [contentOf, Json.lookup, h, ih]

def text? (node : Json) : Option String :=
  match content node with
  | .string s => some s
  | .int n => some (toString n)
  | .float x => some (Json.numberLayout.write x)
  | .bool b => some (if b then "true" else "false")
  | _ => none

/-- The nearest number that has 64 bits. -/
def clamp (n : Int) : Int := max Decimal.minInt (min n Decimal.maxInt)

theorem clamp_bounds (n : Int) : Decimal.minInt ≤ clamp n ∧ clamp n ≤ Decimal.maxInt := by
  simp only [clamp, Decimal.minInt, Decimal.maxInt]
  omega

/-- A whole number in a text, or a decimal number without its fraction. -/
def numberOf (s : String) : Option Int :=
  let trimmed := Text.trim s.toList
  match Decimal.readInt trimmed with
  | some n => some n
  | none => (Decimal.readFloat trimmed).map fun x => clamp (Decimal.truncate x)

/-- The whole number of 64 bits that an element says. -/
def number? (node : Json) : Option Int :=
  match content node with
  | .int n => some (clamp n)
  | .float x => some (clamp (Decimal.truncate x))
  | .string s => numberOf s
  | _ => none

def flagOf (s : String) : Option Bool :=
  let trimmed := Text.trimText s
  if trimmed = "1" || trimmed = "true" then some true
  else if trimmed = "0" || trimmed = "false" then some false
  else none

def flag? (node : Json) : Option Bool := (text? node).bind flagOf

end ListView.Element
