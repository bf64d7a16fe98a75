import ListView.Proofs.Entity.Decode

/-!
# What each key of an element decides

Apart from its id, an entity has nine parts, each with a key of its own. What
stands under such a key decides that part and nothing else: neither the other
parts nor whether there is an entity at all (`agreeApart_decode`). Only the id
can be missed (`decode_eq_noId_iff`). In a list, an entry that is not well-formed
counts as nothing (`listed_filterMap`, `decode_eq_of_inserted`).
-/

namespace ListView

namespace Element

/-- A leaf with a text: a text, a number or a flag, in any number of wrappers. -/
inductive HasText : Json → Prop where
  | string (s : String) : HasText (.string s)
  | int (n : Int) : HasText (.int n)
  | float (x : Float) : HasText (.float x)
  | bool (b : Bool) : HasText (.bool b)
  | wrapped {fields : List (String × Json)} {v : Json} :
      Json.lookup textKey fields = some v → HasText v → HasText (.object fields)

theorem HasText.exists_text? {v : Json} (h : HasText v) : ∃ s, text? v = some s := by
  induction h with
  | string s => exact ⟨s, rfl⟩
  | int n => exact ⟨_, rfl⟩
  | float x => exact ⟨_, rfl⟩
  | bool b => exact ⟨_, rfl⟩
  | wrapped hv _ ih => rwa [text?_object, hv]

-- The recursion is that of the values: a wrapper is followed to its text through its fields.
mutual

theorem hasText_of_text? : ∀ {v : Json} {s : String}, text? v = some s → HasText v
  | .string s, _, _ => .string s
  | .int n, _, _ => .int n
  | .float x, _, _ => .float x
  | .bool b, _, _ => .bool b
  | .object fields, _, h => by
    rw [text?_object] at h
    obtain ⟨v, hv, htext⟩ := exists_hasText h
    exact .wrapped hv htext
  | .null, _, h => nomatch h
  | .array _, _, h => nomatch h

theorem exists_hasText : ∀ {fields : List (String × Json)} {s : String},
    (Json.lookup textKey fields).bind text? = some s →
      ∃ v, Json.lookup textKey fields = some v ∧ HasText v
  | [], _, h => nomatch h
  | (key, v) :: rest, s, h => by
    by_cases hkey : key = textKey
    · cases hkey
      rw [Json.lookup_cons_self] at h ⊢
      exact ⟨v, rfl, hasText_of_text? h⟩
    · rw [Json.lookup_cons_of_ne _ _ hkey] at h ⊢
      exact exists_hasText h

end

theorem text?_eq_none_iff {v : Json} : text? v = none ↔ ¬ HasText v := by
  rw [← Option.not_isSome_iff_eq_none, Option.isSome_iff_exists]
  exact not_congr ⟨fun ⟨_, h⟩ => hasText_of_text? h, HasText.exists_text?⟩

/-- `null` has no text, so that it makes no difference whether it counts as missing. -/
theorem bind_text?_present (node : Option Json) : (present node).bind text? = node.bind text? := by
  cases node with
  | none => rfl
  | some v => cases v <;> rfl

end Element

namespace Entity

open Element

/-! ## Parts -/

/-- The parts of an entity apart from its id. -/
inductive Part where
  | name
  | comment
  | owner
  | creationTime
  | modificationTime
  | writable
  | inUse
  | permissions
  | userTags
  deriving DecidableEq, Repr

namespace Part

def key : Part → String
  | name => "name"
  | comment => "comment"
  | owner => "owner"
  | creationTime => "creation_time"
  | modificationTime => "modification_time"
  | writable => "writable"
  | inUse => "in_use"
  | permissions => "permissions"
  | userTags => "user_tags"

def Content : Part → Type
  | name | comment | owner => Option String
  | creationTime | modificationTime => Option Timestamp
  | writable | inUse => Bool
  | permissions => List String
  | userTags => List UserTag

def get : (part : Part) → Entity → part.Content
  | name, e => e.name
  | comment, e => e.comment
  | owner, e => e.owner
  | creationTime, e => e.creationTime
  | modificationTime, e => e.modificationTime
  | writable, e => e.writable
  | inUse, e => e.inUse
  | permissions, e => e.permissions
  | userTags, e => e.userTags

/-- What a part is decoded to, given what stands under its key. -/
def read (readTime : List Char → Option Timestamp) : (part : Part) → Option Json → part.Content
  | name, node => node.bind text?
  | comment, node => (node.bind text?).filter nonEmpty
  | owner, node => (node.bind (path? · ["name"])).bind text?
  | creationTime, node | modificationTime, node =>
    (node.bind text?).bind fun s => readTime (Text.trim s.toList)
  | writable, node | inUse, node => (node.bind flag?).getD false
  | permissions, node =>
    (occurrences (node.bind (path? · ["permission"]))).filterMap (childText? · "name")
  | userTags, node => (occurrences (node.bind (path? · ["tag"]))).filterMap decodeTag?

theorem key_injective : Function.Injective key := by
  intro a b h
  cases a <;> cases b <;> first | rfl | exact absurd h (by decide)

theorem key_ne_id (part : Part) : "id" ≠ part.key ∧ "_id" ≠ part.key := by
  cases part <;> decide

end Part

theorem ext_parts {a b : Entity} (hid : a.id = b.id) (h : ∀ part : Part, part.get a = part.get b) :
    a = b := by
  cases a
  cases b
  cases hid
  cases h .name
  cases h .comment
  cases h .owner
  cases h .creationTime
  cases h .modificationTime
  cases h .writable
  cases h .inUse
  cases h .permissions
  cases h .userTags
  rfl

/-! ## Entries of lists -/

/-- What an id is read from: what stands under the underscored key, or else under the plain one. -/
def idNode? (fields : List (String × Json)) : Option Json :=
  match Json.lookup "_id" fields with
  | none | some .null => Json.lookup "id" fields
  | some v => some v

theorem id?_object (fields : List (String × Json)) :
    id? (.object fields) = (idNode? fields).bind text? := by
  rw [id?, attribute?, child?_object, child?_object, idNode?]
  have hkey : "_" ++ "id" = "_id" := rfl
  rw [hkey]
  cases Json.lookup "_id" fields with
  | none => exact bind_text?_present _
  | some v =>
    cases v with
    | null => exact bind_text?_present _
    | bool _ | int _ | float _ | string _ | array _ | object _ => rfl

theorem childText?_object (fields : List (String × Json)) (key : String) :
    childText? (.object fields) key = (Json.lookup key fields).bind text? :=
  bind_text?_present _

/-- A well-formed permission has a name. -/
inductive IsPermission : Json → String → Prop where
  | intro {fields : List (String × Json)} {name : String} :
      (Json.lookup "name" fields).bind text? = some name → IsPermission (.object fields) name

/-- A well-formed tag has an id and a name. -/
inductive IsTag : Json → UserTag → Prop where
  | intro {fields : List (String × Json)} {tag : UserTag} :
      (idNode? fields).bind text? = some tag.id →
      (Json.lookup "name" fields).bind text? = some tag.name →
      tag.value = ((Json.lookup "value" fields).bind text?).filter nonEmpty →
      IsTag (.object fields) tag

theorem childText?_name_eq_some_iff (node : Json) (name : String) :
    childText? node "name" = some name ↔ IsPermission node name := by
  constructor
  · intro h
    cases node with
    | object fields => exact .intro (by rwa [childText?_object] at h)
    | null | bool _ | int _ | float _ | string _ | array _ => cases h
  · rintro ⟨h⟩
    rwa [childText?_object]

theorem decodeTag?_object (fields : List (String × Json)) :
    decodeTag? (.object fields) =
      ((idNode? fields).bind text?).bind fun id =>
        ((Json.lookup "name" fields).bind text?).bind fun name =>
          some ⟨id, name, ((Json.lookup "value" fields).bind text?).filter nonEmpty⟩ := by
  rw [decodeTag?, id?_object, childText?_object, childText?_object]
  rfl

theorem decodeTag?_eq_some_iff (node : Json) (tag : UserTag) :
    decodeTag? node = some tag ↔ IsTag node tag := by
  constructor
  · intro h
    cases node with
    | object fields =>
      rw [decodeTag?_object] at h
      obtain ⟨id, hid, h⟩ := Option.bind_eq_some_iff.1 h
      obtain ⟨name, hname, htag⟩ := Option.bind_eq_some_iff.1 h
      cases htag
      exact .intro hid hname rfl
    | null | bool _ | int _ | float _ | string _ | array _ => cases h
  · rintro ⟨hid, hname, hvalue⟩
    rw [decodeTag?_object, hid, hname, ← hvalue]
    rfl

/-- The results are those of the well-formed entries, in their order. -/
inductive Listed {α β : Type} (R : α → β → Prop) : List α → List β → Prop where
  | nil : Listed R [] []
  | keep {x : α} {y : β} {xs : List α} {ys : List β} :
      R x y → Listed R xs ys → Listed R (x :: xs) (y :: ys)
  | skip {x : α} {xs : List α} {ys : List β} :
      (∀ y, ¬ R x y) → Listed R xs ys → Listed R (x :: xs) ys

/-- The second node has one more occurrence, which is not well-formed. -/
def Inserted {β : Type} (R : Json → β → Prop) (a b : Option Json) : Prop :=
  ∃ xs v ys, occurrences a = xs ++ ys ∧ occurrences b = xs ++ v :: ys ∧ ∀ y, ¬ R v y

theorem occurrences_present (node : Option Json) :
    occurrences (present node) = occurrences node := by
  cases node with
  | none => rfl
  | some v => cases v <;> rfl

section Listed

variable {β : Type} {R : Json → β → Prop}

instance : IgnoresNull (Inserted R) where
  present := by
    rintro a b ⟨xs, v, ys, ha, hb, hv⟩
    exact ⟨xs, v, ys, by rw [occurrences_present, ha], by rw [occurrences_present, hb], hv⟩

variable {f : Json → Option β} (hf : ∀ x y, f x = some y ↔ R x y)

include hf

theorem eq_none_of_forall_not {x : Json} (h : ∀ y, ¬ R x y) : f x = none :=
  Option.eq_none_iff_forall_ne_some.2 fun y hy => h y ((hf x y).1 hy)

theorem listed_filterMap (xs : List Json) : Listed R xs (xs.filterMap f) := by
  induction xs with
  | nil => exact .nil
  | cons x xs ih =>
    cases hx : f x with
    | none =>
      rw [List.filterMap_cons_none hx]
      exact .skip (fun y hy => by rw [(hf x y).2 hy] at hx; cases hx) ih
    | some y =>
      rw [List.filterMap_cons_some hx]
      exact .keep ((hf x y).1 hx) ih

theorem Inserted.filterMap_eq {a b : Option Json} (h : Inserted R a b) :
    (occurrences b).filterMap f = (occurrences a).filterMap f := by
  obtain ⟨xs, v, ys, ha, hb, hv⟩ := h
  rw [ha, hb, List.filterMap_append, List.filterMap_append,
    List.filterMap_cons_none (eq_none_of_forall_not hf hv)]

end Listed

/-! ## Decoding by parts -/

/-- The entity with this id and these parts. -/
def ofParts (id : String) (content : (part : Part) → part.Content) : Entity where
  id := id
  name := content .name
  comment := content .comment
  owner := content .owner
  creationTime := content .creationTime
  modificationTime := content .modificationTime
  writable := content .writable
  inUse := content .inUse
  permissions := content .permissions
  userTags := content .userTags

theorem get_ofParts (id : String) (content : (part : Part) → part.Content) (part : Part) :
    part.get (ofParts id content) = content part := by
  cases part <;> rfl

variable {readTime : List Char → Option Timestamp}

theorem decode_of_not_isObject {e : Json} (h : e.isObject = false) :
    decode readTime e = .error .notAnObject := by
  rw [decode, h]
  rfl

theorem decode_of_isObject {e : Json} (h : e.isObject = true) :
    decode readTime e = (id? e).elim (.error .noId) fun id =>
      .ok (ofParts id fun part => part.read readTime (child? e part.key)) := by
  rw [decode, h]
  cases id? e with
  | none => rfl
  | some id => rfl

theorem decode_eq_notAnObject_iff (e : Json) :
    decode readTime e = .error .notAnObject ↔ ∀ fields, e ≠ .object fields := by
  cases e with
  | object fields =>
    rw [decode_of_isObject rfl]
    refine ⟨fun h => ?_, fun h => absurd rfl (h fields)⟩
    cases hid : id? (.object fields) <;> rw [hid] at h <;> cases h
  | null | bool _ | int _ | float _ | string _ | array _ => exact ⟨fun _ => nofun, fun _ => rfl⟩

/-- An element without an id: nothing that an id is read from, or nothing with a text. -/
theorem decode_eq_noId_iff (e : Json) :
    decode readTime e = .error .noId ↔
      ∃ fields, e = .object fields ∧ ∀ v, idNode? fields = some v → ¬ HasText v := by
  cases e with
  | object fields =>
    have hid : id? (.object fields) = none ↔ ∀ v, idNode? fields = some v → ¬ HasText v := by
      rw [id?_object, Option.bind_eq_none_iff]
      exact forall₂_congr fun v _ => text?_eq_none_iff
    rw [decode_of_isObject rfl]
    constructor
    · intro h
      refine ⟨fields, rfl, hid.1 ?_⟩
      cases hnone : id? (.object fields) with
      | none => rfl
      | some id =>
        rw [hnone] at h
        cases h
    · rintro ⟨_, ⟨⟩, h⟩
      rw [hid.2 h]
      rfl
  | null | bool _ | int _ | float _ | string _ | array _ =>
    exact ⟨nofun, fun ⟨_, h, _⟩ => nomatch h⟩

theorem decode_eq_ok_iff {e : Json} {a : Entity} :
    decode readTime e = .ok a ↔ e.isObject = true ∧ id? e = some a.id ∧
      ∀ part : Part, part.get a = part.read readTime (child? e part.key) := by
  cases hobject : e.isObject with
  | false =>
    rw [decode_of_not_isObject hobject]
    exact ⟨nofun, fun h => nomatch h.1⟩
  | true =>
    rw [decode_of_isObject hobject]
    cases id? e with
    | none => exact ⟨nofun, fun h => nomatch h.2.1⟩
    | some id =>
      constructor
      · rintro ⟨⟩
        exact ⟨rfl, rfl, fun part => get_ofParts _ _ part⟩
      · rintro ⟨-, ⟨⟩, hparts⟩
        exact congrArg Except.ok (ext_parts rfl fun part => by rw [get_ofParts, hparts])

/-- Both fail in the same way, or both are entities that differ at most in this part. -/
inductive AgreeApart (part : Part) : Except Error Entity → Except Error Entity → Prop where
  | failure (cause : Error) : AgreeApart part (.error cause) (.error cause)
  | entity {a b : Entity} : a.id = b.id →
      (∀ other, other ≠ part → Part.get other a = Part.get other b) →
      AgreeApart part (.ok a) (.ok b)

/-- What agrees apart from a part, and agrees in it too, is the same. -/
theorem AgreeApart.eq {part : Part} {x y : Except Error Entity} (h : AgreeApart part x y)
    (hpart : ∀ a b, x = .ok a → y = .ok b → part.get a = part.get b) : x = y := by
  cases h with
  | failure => rfl
  | @entity a b hid hparts =>
    refine congrArg Except.ok (ext_parts hid fun other => ?_)
    by_cases hother : other = part
    · cases hother
      exact hpart a b rfl rfl
    · exact hparts other hother

section

variable {e f : Json} (part : Part) (hobject : f.isObject = e.isObject)
  (hchild : ∀ key, key ≠ part.key → child? f key = child? e key)

include hobject hchild

/-- What stands under the key of a part decides that part at most. -/
theorem agreeApart_decode : AgreeApart part (decode readTime e) (decode readTime f) := by
  cases he : e.isObject with
  | false =>
    rw [decode_of_not_isObject he, decode_of_not_isObject (hobject.trans he)]
    exact .failure _
  | true =>
    -- No part has a key of the id, so that the id is the same in both.
    have hid : id? f = id? e := by
      rw [id?, id?, attribute?, attribute?, hchild _ part.key_ne_id.1]
      have hunderscored : child? f ("_" ++ "id") = child? e ("_" ++ "id") :=
        hchild _ part.key_ne_id.2
      rw [hunderscored]
    rw [decode_of_isObject he, decode_of_isObject (hobject.trans he), hid]
    cases id? e with
    | none => exact .failure _
    | some id =>
      refine .entity rfl fun other hother => ?_
      rw [get_ofParts, get_ofParts, hchild _ (Part.key_injective.ne hother)]

theorem decode_eq_of_read_eq
    (hread : part.read readTime (child? f part.key) = part.read readTime (child? e part.key)) :
    decode readTime f = decode readTime e := by
  refine ((agreeApart_decode part hobject hchild).eq fun a b ha hb => ?_).symm
  rw [(decode_eq_ok_iff.1 ha).2.2 part, (decode_eq_ok_iff.1 hb).2.2 part, hread]

end

/-- An entry that is not well-formed may stand in the list of a part or not. -/
theorem decode_eq_of_inserted {β : Type} {R : Json → β → Prop} {item? : Json → Option β}
    (hitem : ∀ x y, item? x = some y ↔ R x y) (part : Part) (key : String)
    (hread : ∀ a b : Option Json,
      (occurrences (a.bind (path? · [key]))).filterMap item? =
        (occurrences (b.bind (path? · [key]))).filterMap item? →
          part.read readTime a = part.read readTime b)
    {e f : Json} (h : Changed (Inserted R) (.along [part.key, key] .here) (some e) (some f)) :
    decode readTime f = decode readTime e := by
  refine decode_eq_of_read_eq part h.isObject_eq (fun k hk => h.child?_eq_of_along hk) ?_
  refine hread _ _ ?_
  rcases h.path?.of_here with hsame | hinserted
  · exact congrArg (fun node => (occurrences node).filterMap item?) hsame.symm
  · exact hinserted.filterMap_eq hitem

/-- A decoder that fails for want of an id only, and reads each part of an entity by itself. -/
structure Lenient (decode : Json → Except Error Entity) : Prop where
  fails : ∀ e, (∃ cause, decode e = .error cause) ↔
    (∀ fields, e ≠ .object fields) ∨
      ∃ fields, e = .object fields ∧ ∀ v, idNode? fields = some v → ¬ HasText v
  apart : ∀ (part : Part) (fs gs : List (String × Json)),
    (∀ key, key ≠ part.key → Json.lookup key gs = Json.lookup key fs) →
    AgreeApart part (decode (.object fs)) (decode (.object gs))
  /-- Keys of neither a part nor an id are not read. -/
  others : ∀ fs gs : List (String × Json), Json.lookup "_id" gs = Json.lookup "_id" fs →
    Json.lookup "id" gs = Json.lookup "id" fs →
    (∀ part : Part, Json.lookup part.key gs = Json.lookup part.key fs) →
    decode (.object gs) = decode (.object fs)
  permissions : ∀ e a, decode e = .ok a →
    Listed IsPermission (occurrences (path? e ["permissions", "permission"])) a.permissions
  tags : ∀ e a, decode e = .ok a →
    Listed IsTag (occurrences (path? e ["user_tags", "tag"])) a.userTags
  inserted_permission : ∀ e f,
    Changed (Inserted IsPermission) (.along ["permissions", "permission"] .here) (some e) (some f) →
    decode f = decode e
  inserted_tag : ∀ e f,
    Changed (Inserted IsTag) (.along ["user_tags", "tag"] .here) (some e) (some f) →
    decode f = decode e

/-- However times are read. -/
theorem lenient_decode (readTime : List Char → Option Timestamp) : Lenient (decode readTime) where
  fails e := by
    rw [← @decode_eq_notAnObject_iff readTime e, ← @decode_eq_noId_iff readTime e]
    constructor
    · rintro ⟨_ | _, h⟩
      · exact .inl h
      · exact .inr h
    · rintro (h | h) <;> exact ⟨_, h⟩
  apart part fs gs h :=
    agreeApart_decode part rfl fun key hkey => by rw [child?_object, child?_object, h key hkey]
  others fs gs hunderscored hplain hparts := by
    have hid : id? (.object gs) = id? (.object fs) := by
      rw [id?_object, id?_object, idNode?, idNode?, hunderscored, hplain]
    rw [decode_of_isObject rfl, decode_of_isObject rfl, hid]
    simp only [child?_object, hparts]
  permissions e a h := by
    have hread : a.permissions = permissionsOf e := (decode_eq_ok_iff.1 h).2.2 .permissions
    rw [hread]
    exact listed_filterMap childText?_name_eq_some_iff _
  tags e a h := by
    have hread : a.userTags = tagsOf e := (decode_eq_ok_iff.1 h).2.2 .userTags
    rw [hread]
    exact listed_filterMap decodeTag?_eq_some_iff _
  inserted_permission _ _ :=
    decode_eq_of_inserted childText?_name_eq_some_iff .permissions "permission" fun _ _ h => h
  inserted_tag _ _ := decode_eq_of_inserted decodeTag?_eq_some_iff .userTags "tag" fun _ _ h => h

/-- An element with this name and these tags. -/
def tagged (name : Json) (tags : List Json) : Json :=
  .object [("user_tags", .object [("tag", .array tags)]), ("name", name), ("id", .int 7)]

def plainTag (id name : String) : Json := .object [("_id", .string id), ("name", .string name)]

/-- A name that is no text leaves the tags alone, and so does a tag without a name. -/
theorem lenient_decode_tagged :
    AgreeApart .name
      (decode Timestamp.read? (tagged (.string "web") [plainTag "1" "a", plainTag "2" "b"]))
      (decode Timestamp.read? (tagged (.array []) [plainTag "1" "a", plainTag "2" "b"])) ∧
    decode Timestamp.read?
        (tagged .null [plainTag "1" "a", .object [("_id", .int 3)], plainTag "2" "b"]) =
      decode Timestamp.read? (tagged .null [plainTag "1" "a", plainTag "2" "b"]) ∧
    ∃ cause, decode Timestamp.read? (.object [("_id", .array []), ("id", .int 7)]) =
      .error cause := by
  have hlenient := lenient_decode Timestamp.read?
  refine ⟨hlenient.apart .name _ _ fun key hkey => ?_, hlenient.inserted_tag _ _ ?_,
    (hlenient.fails _).2 (.inr ⟨_, rfl, ?_⟩)⟩
  · have hname : "name" ≠ key := Ne.symm hkey
    simp only [Json.lookup, if_neg hname]
  · refine .along_field (.along_field (.here ⟨[_], _, [_], rfl, rfl, ?_⟩) _) _
    rintro tag ⟨-, hname, -⟩
    cases hname
  · rintro _ ⟨⟩ h
    cases h

end Entity

end ListView
