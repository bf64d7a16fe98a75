import Mathlib.Algebra.Group.Nat.Defs
import Mathlib.Data.List.Forall2
import ListView.Occurrences

/-!
# One or many

A field of a record that holds one or many elements is read as an array where
that is possible, and else as a bare element. A tree lists the occurrences of an
element by the form of the node alone. Both list the same
(`oneOrMany?_eq_mapM`), unless an element may itself be an array whose items are
no elements.
-/

namespace ListView

namespace Json

theorem wholeIn?_eq_some_iff {low high n : Int} {v : Json} :
    wholeIn? low high v = some n ↔ v = .int n ∧ low ≤ n ∧ n ≤ high := by
  cases v with
  | int m =>
    rw [wholeIn?, Option.ite_none_right_eq_some, Bool.and_eq_true, decide_eq_true_iff,
      decide_eq_true_iff]
    constructor
    · rintro ⟨hbounds, ⟨⟩⟩
      exact ⟨rfl, hbounds⟩
    · rintro ⟨⟨⟩, hbounds⟩
      exact ⟨hbounds, rfl⟩
  | null | bool _ | float _ | string _ | array _ | object _ => exact ⟨nofun, fun h => nomatch h.1⟩

/-- A number of so many bits is a whole number, not negative and below the power of two. -/
theorem unsigned?_eq_some_iff {bits n : Nat} {v : Json} :
    unsigned? bits v = some n ↔ v = .nat n ∧ n < 2 ^ bits := by
  have hpow : ((Nat.pow 2 bits : Nat) : Int) = ((2 ^ bits : Nat) : Int) := rfl
  rw [unsigned?, Option.map_eq_some_iff]
  constructor
  · rintro ⟨m, hm, hn⟩
    obtain ⟨rfl, hlow, hhigh⟩ := wholeIn?_eq_some_iff.1 hm
    have hnat : m = (n : Int) := by omega
    exact ⟨congrArg Json.int hnat, by omega⟩
  · rintro ⟨rfl, hn⟩
    refine ⟨n, wholeIn?_eq_some_iff.2 ⟨rfl, ?_, ?_⟩, Int.toNat_natCast n⟩ <;> omega

end Json

/-- Items are read one by one, and all of them. -/
theorem mapM_eq_some_iff {α β : Type} {f : α → Option β} {xs : List α} {ys : List β} :
    xs.mapM f = some ys ↔ List.Forall₂ (fun x y => f x = some y) xs ys := by
  induction xs generalizing ys with
  | nil =>
    rw [List.mapM_nil, List.forall₂_nil_left_iff]
    exact ⟨fun h => (Option.some.inj h).symm, fun h => h ▸ rfl⟩
  | cons x xs ih =>
    rw [List.mapM_cons, List.forall₂_cons_left_iff]
    simp only [Option.bind_eq_bind, Option.bind_eq_some_iff, ih, Option.pure_def, Option.some.injEq]
    constructor
    · rintro ⟨y, hy, rest, hrest, rfl⟩
      exact ⟨y, rest, hy, hrest, rfl⟩
    · rintro ⟨y, rest, hy, hrest, rfl⟩
      exact ⟨y, hy, rest, hrest, rfl⟩

theorem mapM_singleton {α β : Type} (f : α → Option β) (x : α) :
    [x].mapM f = (f x).map fun y => [y] := by
  rw [List.mapM_cons, List.mapM_nil]
  cases f x <;> rfl

theorem mapM_some {α : Type} (xs : List α) : xs.mapM some = some xs :=
  List.mapM_pure.trans (congrArg some (List.map_id' xs))

/-- An array that is an element has elements for items. -/
def ReadsItems {α : Type} (element : Json → Option α) : Prop :=
  ∀ items a, element (.array items) = some a → ∃ as, items.mapM element = some as

theorem readsItems_some : ReadsItems (some : Json → Option Json) :=
  fun items _ _ => ⟨items, mapM_some items⟩

theorem readsItems_unsigned (bits : Nat) : ReadsItems (Json.unsigned? bits) := nofun

section OneOrMany

variable {α : Type} {element : Json → Option α}

/-- What is neither `null` nor an array is an element by itself. -/
theorem oneOrMany?_bare {v : Json} (hnull : v.isNull = false) (harray : ∀ items, v ≠ .array items) :
    oneOrMany? element v = (element v).map fun a => [a] := by
  have hlist : Json.listOf? element v = none := by
    cases v with
    | array items => exact absurd rfl (harray items)
    | null | bool _ | int _ | float _ | string _ | object _ => rfl
  have hone : OneOrMany.ofJson? element v = (element v).map .one := by
    rw [OneOrMany.ofJson?, hlist]
  have hpresent : Json.optional? (OneOrMany.ofJson? element) v =
      (OneOrMany.ofJson? element v).map some := by
    cases v with
    | null => cases hnull
    | bool _ | int _ | float _ | string _ | array _ | object _ => rfl
  rw [oneOrMany?, hpresent, hone]
  cases element v <;> rfl

theorem oneOrMany?_array (h : ReadsItems element) (items : List Json) :
    oneOrMany? element (.array items) = items.mapM element := by
  have hlist : Json.listOf? element (.array items) = items.mapM element := rfl
  have hpresent : Json.optional? (OneOrMany.ofJson? element) (.array items) =
      (OneOrMany.ofJson? element (.array items)).map some := rfl
  rw [oneOrMany?, hpresent, OneOrMany.ofJson?, hlist]
  cases hitems : items.mapM element with
  | some as => rfl
  | none =>
    -- The array is tried as a bare element now, and is none since not all items are.
    cases hbare : element (.array items) with
    | none => rfl
    | some a =>
      obtain ⟨as, has⟩ := h items a hbare
      rw [hitems] at has
      cases has

/-- What a field reads is what the tree lists, read one by one. -/
theorem oneOrMany?_eq_mapM (h : ReadsItems element) (v : Json) :
    oneOrMany? element v = (occurrences (some v)).mapM element := by
  cases v with
  | null => rfl
  | array items => exact oneOrMany?_array h items
  | bool _ | int _ | float _ | string _ | object _ =>
    refine (oneOrMany?_bare rfl ?_).trans (mapM_singleton _ _).symm
    nofun

/-- A field that is left out reads as one without occurrences. -/
theorem withDefault?_oneOrMany?_eq_mapM (h : ReadsItems element) (r : Json.Record) (name : String) :
    r.withDefault? name [] (oneOrMany? element) =
      (occurrences (Json.lookup name r.fields)).mapM element := by
  rw [Json.Record.withDefault?]
  cases Json.lookup name r.fields with
  | none => rfl
  | some v => exact oneOrMany?_eq_mapM h v

end OneOrMany

theorem forall₂_unsigned_iff {bits : Nat} {items : List Json} {ns : List Nat} :
    List.Forall₂ (fun item n => Json.unsigned? bits item = some n) items ns ↔
      items = ns.map .nat ∧ ∀ n ∈ ns, n < 2 ^ bits := by
  induction items generalizing ns with
  | nil =>
    rw [List.forall₂_nil_left_iff, List.nil_eq, List.map_eq_nil_iff]
    exact ⟨fun h => ⟨h, h ▸ nofun⟩, And.left⟩
  | cons item items ih =>
    rw [List.forall₂_cons_left_iff]
    constructor
    · rintro ⟨n, ns, hn, hns, rfl⟩
      obtain ⟨rfl, hlt⟩ := Json.unsigned?_eq_some_iff.1 hn
      obtain ⟨rfl, hlts⟩ := ih.1 hns
      exact ⟨rfl, List.forall_mem_cons.2 ⟨hlt, hlts⟩⟩
    · rintro ⟨hitems, hlt⟩
      cases ns with
      | nil => cases hitems
      | cons n ns =>
        obtain ⟨rfl, rfl⟩ := List.cons.inj hitems
        obtain ⟨hlt, hlts⟩ := List.forall_mem_cons.1 hlt
        exact ⟨n, ns, Json.unsigned?_eq_some_iff.2 ⟨rfl, hlt⟩, ih.2 ⟨rfl, hlts⟩, rfl⟩

theorem oneOrMany?_unsigned_iff {bits : Nat} {v : Json} {ns : List Nat} :
    oneOrMany? (Json.unsigned? bits) v = some ns ↔
      occurrences (some v) = ns.map .nat ∧ ∀ n ∈ ns, n < 2 ^ bits := by
  rw [oneOrMany?_eq_mapM (readsItems_unsigned bits), mapM_eq_some_iff, forall₂_unsigned_iff]

/-- A field reads if each occurrence does. -/
theorem exists_oneOrMany?_unsigned_iff {bits : Nat} {v : Json} :
    (∃ ns, oneOrMany? (Json.unsigned? bits) v = some ns) ↔
      ∀ item ∈ occurrences (some v), ∃ n : Nat, n < 2 ^ bits ∧ item = .nat n := by
  constructor
  · rintro ⟨ns, hns⟩ item hitem
    obtain ⟨hitems, hlt⟩ := oneOrMany?_unsigned_iff.1 hns
    rw [hitems] at hitem
    obtain ⟨n, hn, rfl⟩ := List.mem_map.1 hitem
    exact ⟨n, hlt n hn, rfl⟩
  · intro h
    choose! number hlt hnumber using h
    refine ⟨(occurrences (some v)).map number, oneOrMany?_unsigned_iff.2 ⟨?_, ?_⟩⟩
    · have hsame : ∀ item ∈ occurrences (some v), Json.nat (number item) = item :=
        fun item hitem => (hnumber item hitem).symm
      rw [List.map_map]
      exact ((List.map_congr_left hsame).trans (List.map_id' _)).symm
    · rintro n hn
      obtain ⟨item, hitem, rfl⟩ := List.mem_map.1 hn
      exact hlt item hitem

/-- Fields of one or many values, or numbers of 32 bits, read what a tree lists. -/
structure ReadsOccurrences : Prop where
  value : ∀ v, oneOrMany? some v = some (occurrences (some v))
  readable : ∀ v, (∃ ns, oneOrMany? (Json.unsigned? 32) v = some ns) ↔
    ∀ item ∈ occurrences (some v), ∃ n : Nat, n ≤ 4294967295 ∧ item = .nat n
  number : ∀ v ns, oneOrMany? (Json.unsigned? 32) v = some ns ↔
    occurrences (some v) = ns.map .nat ∧ ∀ n ∈ ns, n ≤ 4294967295
  /-- A field that is left out is an element without an occurrence. -/
  missing : ∀ (r : Json.Record) (name : String), Json.lookup name r.fields = none →
    r.withDefault? name [] (oneOrMany? some) = some (occurrences none) ∧
    (r.withDefault? name [] (oneOrMany? (Json.unsigned? 32))).map (List.map .nat) =
      some (occurrences none)

theorem readsOccurrences_oneOrMany? : ReadsOccurrences where
  value v := by rw [oneOrMany?_eq_mapM readsItems_some, mapM_some]
  readable v := by
    rw [exists_oneOrMany?_unsigned_iff]
    exact forall₂_congr fun _ _ => exists_congr fun n => and_congr_left' (by omega)
  number v ns := by
    rw [oneOrMany?_unsigned_iff]
    exact and_congr_right' (forall₂_congr fun n _ => by omega)
  missing r name h := by
    rw [withDefault?_oneOrMany?_eq_mapM readsItems_some,
      withDefault?_oneOrMany?_eq_mapM (readsItems_unsigned 32), h]
    exact ⟨rfl, rfl⟩

/-- The ends of the range are read, `null` in an array is not, and no field is no number. -/
theorem readsOccurrences_oneOrMany?_bounds :
    oneOrMany? (Json.unsigned? 32) (.array [.int 0, .int 4294967295]) = some [0, 4294967295] ∧
    (¬ ∃ ns, oneOrMany? (Json.unsigned? 32) (.array [.int 7, .null]) = some ns) ∧
    Json.Record.withDefault? ⟨[("count", .int 7)], false⟩ "item" [] (oneOrMany? some) =
      some [] := by
  refine ⟨(readsOccurrences_oneOrMany?.number _ _).2 ⟨rfl, by decide⟩, fun h => ?_,
    (readsOccurrences_oneOrMany?.missing _ _ rfl).1⟩
  obtain ⟨n, -, hn⟩ := (readsOccurrences_oneOrMany?.readable _).1 h .null
    (List.mem_cons_of_mem _ (List.mem_singleton.2 rfl))
  cases hn

end ListView
