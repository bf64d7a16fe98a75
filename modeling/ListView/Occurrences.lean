import ListView.Json.Record

/-!
# Repeated elements

An element that may be repeated is an array only where it occurs at least twice:
once it is bare, and without an occurrence its key is missing.
-/

namespace ListView

/-- The occurrences of an element that may be missing, bare or repeated. -/
def occurrences : Option Json → List Json
  | none => []
  | some .null => []
  | some (.array items) => items
  | some v => [v]

@[simp] theorem occurrences_none : occurrences none = [] := rfl

@[simp] theorem occurrences_array (items : List Json) :
    occurrences (some (.array items)) = items := rfl

/-- A bare value is its own array of one. -/
theorem occurrences_singleton {v : Json} (hn : v.isNull = false) (ha : ∀ items, v ≠ .array items) :
    occurrences (some v) = occurrences (some (.array [v])) := by
  cases v <;> simp_all [occurrences, Json.isNull]

/-- A typed element, bare or repeated. -/
inductive OneOrMany (α : Type) where
  | many (items : List α)
  | one (item : α)
  deriving Repr

namespace OneOrMany

def toList : OneOrMany α → List α
  | many items => items
  | one item => [item]

/-- An array of elements if the value reads as one, else a bare element. -/
def ofJson? (element : Json → Option α) (v : Json) : Option (OneOrMany α) :=
  match Json.listOf? element v with
  | some items => some (many items)
  | none => (element v).map one

def toJson (element : α → Json) : OneOrMany α → Json
  | many items => .array (items.map element)
  | one item => element item

end OneOrMany

/-- The typed elements of a field that may be `null`, bare or repeated. -/
def oneOrMany? (element : Json → Option α) (v : Json) : Option (List α) :=
  (Json.optional? (OneOrMany.ofJson? element) v).map fun found =>
    (found.map OneOrMany.toList).getD []

end ListView
