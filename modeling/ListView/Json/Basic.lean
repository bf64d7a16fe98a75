/-!
# JSON values

A number keeps whether it was written as a whole number of 64 bits. An object
is its fields in a fixed order: objects that are read have their keys in
increasing order, records that are written keep the order of their fields.
-/

namespace ListView

inductive Json where
  | null
  | bool (b : Bool)
  | int (n : Int)
  | float (x : Float)
  | string (s : String)
  | array (items : List Json)
  | object (fields : List (String × Json))
  deriving Inhabited

namespace Json

/-- The value of the first field with this key. -/
def lookup (key : String) : List (String × Json) → Option Json
  | [] => none
  | (k, v) :: rest => if k = key then some v else lookup key rest

@[simp] theorem lookup_nil (key : String) : lookup key [] = none := rfl

@[simp] theorem lookup_cons_self (key : String) (v : Json) (rest : List (String × Json)) :
    lookup key ((key, v) :: rest) = some v := by simp [lookup]

theorem lookup_cons_of_ne {k key : String} (v : Json) (rest : List (String × Json))
    (h : k ≠ key) : lookup key ((k, v) :: rest) = lookup key rest := by simp [lookup, h]

/-- Sets a field and keeps the keys in increasing order. -/
def insert (key : String) (value : Json) : List (String × Json) → List (String × Json)
  | [] => [(key, value)]
  | (k, v) :: rest =>
    if k = key then (key, value) :: rest
    else if key < k then (key, value) :: (k, v) :: rest
    else (k, v) :: insert key value rest

theorem lookup_insert_self (key : String) (value : Json) (fields : List (String × Json)) :
    lookup key (insert key value fields) = some value := by
  induction fields with
  | nil => simp [insert]
  | cons f rest ih =>
    simp only [insert]
    split
    · simp
    · split
      · simp
      · rename_i hk _
        simpa [lookup, hk] using ih

theorem lookup_insert_of_ne {key other : String} (value : Json) (fields : List (String × Json))
    (h : key ≠ other) : lookup other (insert key value fields) = lookup other fields := by
  induction fields with
  | nil => simp [insert, lookup, h]
  | cons f rest ih =>
    obtain ⟨k, v⟩ := f
    simp only [insert]
    split
    · rename_i hk
      simp [lookup, hk, h]
    · split
      · simp [lookup, h]
      · simp [lookup, ih]

def isNull : Json → Bool
  | null => true
  | _ => false

def isObject : Json → Bool
  | object _ => true
  | _ => false

def strings (texts : List String) : Json := array (texts.map string)

def nat (n : Nat) : Json := int n

def ofOption (f : α → Json) : Option α → Json
  | some a => f a
  | none => null

end Json

end ListView
