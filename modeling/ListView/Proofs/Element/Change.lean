import Mathlib.Data.List.Forall2
import ListView.Element
import ListView.Occurrences

/-!
# Changes of a tree

`Changed R places a b` says that `b` is `a` with other nodes at some of the
places, each related by `R` to the one it stands for. Nodes may be missing.
A change is followed to the children, along a path and into the occurrences of
a repeated element (`Changed.child?`, `Changed.bind_path?`,
`Changed.forall₂_occurrences`). A repeated element that changes its form only is
`Regrouped`, and has the same occurrences (`Changed.occurrences_eq`). A node that
is put in place (`put`) is not seen along other paths (`bind_path?_put`).
-/

namespace ListView.Element

/-- Places in a tree: none, the node itself, places under its keys, or places in its items where it
may be repeated. -/
inductive Places where
  | nowhere
  | here
  | under (places : String → Places)
  | each (item : Places)

/-- Places at the end of a path. -/
def Places.along : List String → Places → Places
  | [], places => places
  | key :: rest, places => .under fun k => if k = key then along rest places else .nowhere

theorem Places.along_append (keys rest : List String) (places : Places) :
    along (keys ++ rest) places = along keys (along rest places) := by
  induction keys with
  | nil => rfl
  | cons key keys ih => rw [List.cons_append, along, along, ih]

/-- The second node is the first with related nodes at some of the places. An item is an element
with fields, bare or in an array. -/
inductive Changed (R : Option Json → Option Json → Prop) :
    Places → Option Json → Option Json → Prop where
  | same (places : Places) (node : Option Json) : Changed R places node node
  | here {a b : Option Json} : R a b → Changed R .here a b
  | under {places : String → Places} {fs gs : List (String × Json)} :
      (∀ key, Changed R (places key) (Json.lookup key fs) (Json.lookup key gs)) →
      Changed R (.under places) (some (.object fs)) (some (.object gs))
  | bare {item : Places} {fs gs : List (String × Json)} :
      Changed R item (some (.object fs)) (some (.object gs)) →
      Changed R (.each item) (some (.object fs)) (some (.object gs))
  | cons {item : Places} {v w : Json} {vs ws : List Json} : Changed R item (some v) (some w) →
      Changed R (.each item) (some (.array vs)) (some (.array ws)) →
      Changed R (.each item) (some (.array (v :: vs))) (some (.array (w :: ws)))

/-- The node unless it is `null`. -/
def present (node : Option Json) : Option Json := node.filter (!·.isNull)

theorem present_of_not_null {v : Json} (h : v.isNull = false) : present (some v) = some v := by
  simp [present, h]

/-- Related nodes stay related when `null` counts as missing. -/
class IgnoresNull (R : Option Json → Option Json → Prop) : Prop where
  present {a b : Option Json} : R a b → R (present a) (present b)

theorem child?_object (fields : List (String × Json)) (key : String) :
    child? (.object fields) key = present (Json.lookup key fields) := rfl

theorem child?_of_not_object {v : Json} (h : v.isObject = false) (key : String) :
    child? v key = none := by
  cases v with
  | object fields => cases h
  | _ => rfl

theorem path?_cons (node : Json) (key : String) (rest : List String) :
    path? node (key :: rest) = (child? node key).bind (path? · rest) := rfl

theorem path?_singleton (node : Json) (key : String) : path? node [key] = child? node key := by
  rw [path?_cons]
  exact Option.bind_fun_some _

theorem path?_append (node : Json) (keys rest : List String) :
    path? node (keys ++ rest) = (path? node keys).bind (path? · rest) := by
  induction keys generalizing node with
  | nil => rfl
  | cons key keys ih =>
    rw [List.cons_append, path?_cons, path?_cons]
    cases child? node key with
    | none => rfl
    | some v => exact ih v

namespace Changed

variable {R : Option Json → Option Json → Prop} {a b : Option Json}

theorem eq_of_nowhere (h : Changed R .nowhere a b) : a = b := by
  cases h with
  | same => rfl

theorem of_here (h : Changed R .here a b) : a = b ∨ R a b := by
  cases h with
  | same => exact .inl rfl
  | here hR => exact .inr hR

/-- Nodes with places under their keys are equal, or objects that differ under these keys. -/
theorem of_under {places : String → Places} (h : Changed R (.under places) a b) :
    a = b ∨ ∃ fs gs, a = some (.object fs) ∧ b = some (.object gs) ∧
      ∀ key, Changed R (places key) (Json.lookup key fs) (Json.lookup key gs) := by
  cases h with
  | same => exact .inl rfl
  | under hkeys => exact .inr ⟨_, _, rfl, rfl, hkeys⟩

theorem isNone_eq {places : String → Places} (h : Changed R (.under places) a b) :
    b.isNone = a.isNone := by
  cases h with
  | same => rfl
  | under _ => rfl

theorem isObject_eq {places : String → Places} {v w : Json}
    (h : Changed R (.under places) (some v) (some w)) : w.isObject = v.isObject := by
  cases h with
  | same => rfl
  | under _ => rfl

theorem isObject_eq_of_along {keys rest : List String} {key : String} {places : Places} {v w : Json}
    (h : Changed R (.along (keys ++ key :: rest) places) (some v) (some w)) :
    w.isObject = v.isObject := by
  cases keys with
  | nil => exact h.isObject_eq
  | cons _ _ => exact h.isObject_eq

/-- Of changed nodes either both are missing or both are there. -/
theorem rel {S : Json → Json → Prop} (hrefl : ∀ v, S v v) {places : String → Places}
    (h : Changed R (.under places) a b)
    (hS : ∀ v w, Changed R (.under places) (some v) (some w) → S v w) : Option.Rel S a b := by
  cases h with
  | same =>
    cases a with
    | none => exact .none
    | some v => exact .some (hrefl v)
  | under hkeys => exact .some (hS _ _ (.under hkeys))

section

variable [IgnoresNull R]

theorem present {places : Places} (h : Changed R places a b) :
    Changed R places (Element.present a) (Element.present b) := by
  cases h with
  | same => exact .same _ _
  | here hab => exact .here (IgnoresNull.present hab)
  | under hkeys => exact .under hkeys
  | bare h => exact .bare h
  | cons hitem hitems => exact .cons hitem hitems

theorem child? {places : String → Places} {v w : Json}
    (h : Changed R (.under places) (some v) (some w)) (key : String) :
    Changed R (places key) (Element.child? v key) (Element.child? w key) := by
  cases h with
  | same => exact .same _ _
  | under hkeys => exact (hkeys key).present

theorem bind_path? {keys : List String} {places : Places}
    (h : Changed R (.along keys places) a b) :
    Changed R places (a.bind (Element.path? · keys)) (b.bind (Element.path? · keys)) := by
  induction keys generalizing a b with
  | nil => simpa [Places.along] using h
  | cons key rest ih =>
    rcases of_under h with rfl | ⟨fs, gs, rfl, rfl, hkeys⟩
    · exact .same _ _
    · have hkey := (hkeys key).present
      rw [if_pos rfl] at hkey
      exact ih hkey

theorem path? {keys : List String} {places : Places} {v w : Json}
    (h : Changed R (.along keys places) (some v) (some w)) :
    Changed R places (Element.path? v keys) (Element.path? w keys) := h.bind_path?

theorem path?_cons {places : String → Places} {key : String} {rest : List String} {item : Places}
    {v w : Json} (h : Changed R (.under places) (some v) (some w))
    (hkey : places key = .along rest item) :
    Changed R item (Element.path? v (key :: rest)) (Element.path? w (key :: rest)) := by
  have hchild := h.child? key
  rw [hkey] at hchild
  exact hchild.bind_path?

/-- A change at the end of a path leaves the other children of a node alone. -/
theorem child?_eq_of_along {key k : String} {rest : List String} {places : Places} {v w : Json}
    (h : Changed R (.along (key :: rest) places) (some v) (some w)) (hk : k ≠ key) :
    Element.child? w k = Element.child? v k := by
  have hchild := h.child? k
  rw [if_neg hk] at hchild
  exact hchild.eq_of_nowhere.symm

end

theorem forall₂_occurrences {item : Places} (h : Changed R (.each item) a b) :
    List.Forall₂ (fun v w => Changed R item (some v) (some w)) (occurrences a)
      (occurrences b) := by
  generalize hplaces : Places.each item = places at h
  induction h with
  | same => exact List.forall₂_same.2 fun v _ => .same _ _
  | bare h =>
    cases hplaces
    exact .cons h .nil
  | cons hitem _ _ ih =>
    cases hplaces
    exact .cons hitem (ih rfl)
  | here | under => cases hplaces

end Changed

/-- A change in the first field of an object. -/
theorem Changed.field {R : Option Json → Option Json → Prop} {places : String → Places}
    {key : String} {v w : Json} (h : Changed R (places key) (some v) (some w))
    (rest : List (String × Json)) :
    Changed R (.under places) (some (.object ((key, v) :: rest)))
      (some (.object ((key, w) :: rest))) := by
  refine .under fun k => ?_
  by_cases hk : k = key
  · cases hk
    rw [Json.lookup_cons_self, Json.lookup_cons_self]
    exact h
  · rw [Json.lookup_cons_of_ne _ _ (Ne.symm hk), Json.lookup_cons_of_ne _ _ (Ne.symm hk)]
    exact .same _ _

theorem Changed.along_field {R : Option Json → Option Json → Prop} {key : String}
    {keys : List String} {places : Places} {v w : Json}
    (h : Changed R (.along keys places) (some v) (some w)) (rest : List (String × Json)) :
    Changed R (.along (key :: keys) places) (some (.object ((key, v) :: rest)))
      (some (.object ((key, w) :: rest))) := by
  refine .field ?_ rest
  rw [if_pos rfl]
  exact h

/-! ## Forms of a repeated element -/

/-- A bare value becomes an array of its own. -/
inductive Bracketed : Option Json → Option Json → Prop where
  | intro {v : Json} : v.isNull = false → (∀ items, v ≠ .array items) →
      Bracketed (some v) (some (.array [v]))

/-- The three ways to have no occurrence. -/
inductive Absent : Option Json → Prop where
  | missing : Absent none
  | null : Absent (some .null)
  | empty : Absent (some (.array []))

/-- The same occurrences in another form. -/
def Regrouped (a b : Option Json) : Prop := Bracketed a b ∨ Absent a ∧ Absent b

theorem Bracketed.present {a b : Option Json} (h : Bracketed a b) :
    Bracketed (present a) (present b) := by
  cases h with
  | intro hnull harray =>
    rw [present_of_not_null hnull]
    exact .intro hnull harray

instance : IgnoresNull Bracketed := ⟨Bracketed.present⟩

theorem Bracketed.occurrences_eq {a b : Option Json} (h : Bracketed a b) :
    occurrences b = occurrences a := by
  cases h with
  | intro hnull harray => exact (occurrences_singleton hnull harray).symm

theorem Absent.present {a : Option Json} (h : Absent a) : Absent (present a) := by
  cases h with
  | missing => exact .missing
  | null => exact .missing
  | empty => exact .empty

theorem Absent.occurrences_eq {a : Option Json} (h : Absent a) : occurrences a = [] := by
  cases h <;> rfl

instance : IgnoresNull Regrouped :=
  ⟨fun h => h.imp Bracketed.present fun h => ⟨h.1.present, h.2.present⟩⟩

theorem Regrouped.occurrences_eq {a b : Option Json} (h : Regrouped a b) :
    occurrences b = occurrences a := by
  rcases h with h | ⟨ha, hb⟩
  · exact h.occurrences_eq
  · rw [ha.occurrences_eq, hb.occurrences_eq]

theorem Changed.occurrences_eq {a b : Option Json} (h : Changed Regrouped .here a b) :
    occurrences b = occurrences a := by
  rcases h.of_here with rfl | h
  · rfl
  · exact h.occurrences_eq

/-! ## A node put in place -/

/-- The fields of an element, none unless it is an object. -/
def fieldsOf : Option Json → List (String × Json)
  | some (.object fields) => fields
  | _ => []

/-- The fields with this node under the key. Without a node the key is left out. -/
def assign (key : String) (node : Option Json) (fields : List (String × Json)) :
    List (String × Json) :=
  match node with
  | some v => Json.insert key v fields
  | none => fields.filter fun field => field.1 ≠ key

/-- The tree with this node at the end of the path. Objects that are missing on the way are made. -/
def put : List String → Option Json → Option Json → Option Json
  | [], node, _ => node
  | key :: rest, node, tree =>
    some (.object (assign key (put rest node (Json.lookup key (fieldsOf tree))) (fieldsOf tree)))

theorem lookup_filter (key other : String) (fields : List (String × Json)) :
    Json.lookup other (fields.filter fun field => field.1 ≠ key) =
      if other = key then none else Json.lookup other fields := by
  induction fields with
  | nil => simp
  | cons field rest ih =>
    obtain ⟨k, v⟩ := field
    by_cases hk : k = key
    · rw [List.filter_cons_of_neg (by simp [hk]), ih]
      by_cases hother : other = key
      · rw [if_pos hother, if_pos hother]
      · rw [if_neg hother, if_neg hother, Json.lookup_cons_of_ne]
        exact fun h => hother (h.symm.trans hk)
    · rw [List.filter_cons_of_pos (by simp [hk]), Json.lookup, Json.lookup, ih]
      by_cases hother : k = other
      · cases hother
        rw [if_pos rfl, if_pos rfl, if_neg hk]
      · rw [if_neg hother, if_neg hother]

theorem lookup_assign_self (key : String) (node : Option Json) (fields : List (String × Json)) :
    Json.lookup key (assign key node fields) = node := by
  cases node with
  | some v => exact Json.lookup_insert_self key v fields
  | none => rw [assign, lookup_filter, if_pos rfl]

theorem lookup_assign_of_ne {key other : String} (h : other ≠ key) (node : Option Json)
    (fields : List (String × Json)) :
    Json.lookup other (assign key node fields) = Json.lookup other fields := by
  cases node with
  | some v => exact Json.lookup_insert_of_ne v fields (Ne.symm h)
  | none => rw [assign, lookup_filter, if_neg h]

theorem bind_path?_cons (tree : Option Json) (key : String) (rest : List String) :
    tree.bind (path? · (key :: rest)) =
      (present (Json.lookup key (fieldsOf tree))).bind (path? · rest) := by
  cases tree with
  | none => rfl
  | some v => cases v <;> rfl

theorem bind_path?_present {keys : List String} (h : keys ≠ []) (tree : Option Json) :
    (present tree).bind (path? · keys) = tree.bind (path? · keys) := by
  obtain ⟨key, rest, rfl⟩ := List.exists_cons_of_ne_nil h
  cases tree with
  | none => rfl
  | some v => cases v <;> rfl

/-- What is put at the end of one path is not seen along another, unless one goes on where the other
ends. -/
theorem bind_path?_put {keys path : List String} (hkeys : ¬ keys <+: path) (hpath : ¬ path <+: keys)
    (node tree : Option Json) :
    (put keys node tree).bind (path? · path) = tree.bind (path? · path) := by
  induction keys generalizing path tree with
  | nil => exact absurd List.nil_prefix hkeys
  | cons key keys ih =>
    cases path with
    | nil => exact absurd List.nil_prefix hpath
    | cons k path =>
      rw [put, bind_path?_cons, bind_path?_cons, fieldsOf]
      by_cases hk : k = key
      · cases hk
        rw [List.cons_prefix_cons] at hkeys hpath
        have hkeys : ¬ keys <+: path := fun h => hkeys ⟨rfl, h⟩
        have hpath : ¬ path <+: keys := fun h => hpath ⟨rfl, h⟩
        have hne : path ≠ [] := by
          rintro rfl
          exact hpath List.nil_prefix
        rw [lookup_assign_self, bind_path?_present hne, bind_path?_present hne, ih hkeys hpath]
      · rw [lookup_assign_of_ne hk]

end ListView.Element
