import ListView.Entity
import ListView.Proofs.Element.Spelling

/-!
# Decoding an element

What an element decodes to depends on its form and its leaves' spelling in no
way: not on whether a sole permission or tag is bare (`decode_eq_of_regrouped`),
and not on how leaves are spelled (`decode_eq_of_respelled`). Both come from one
lemma on elements that say the same in every field (`decode_eq_of_sameFields`).
All of it holds for every reader of times: equal texts are read alike.
-/

namespace ListView.Entity

open Element

variable {readTime : List Char → Option Timestamp}

/-- Elements that say the same in every field. -/
structure SameFields (e f : Json) : Prop where
  object : f.isObject = e.isObject
  id : id? f = id? e
  name : childText? f "name" = childText? e "name"
  comment : childText? f "comment" = childText? e "comment"
  owner : (path? f ["owner", "name"]).bind text? = (path? e ["owner", "name"]).bind text?
  creationTime : childText? f "creation_time" = childText? e "creation_time"
  modificationTime : childText? f "modification_time" = childText? e "modification_time"
  writable : flag f "writable" = flag e "writable"
  inUse : flag f "in_use" = flag e "in_use"
  permissions : permissionsOf f = permissionsOf e
  tags : tagsOf f = tagsOf e

theorem decode_eq_of_sameFields {e f : Json} (h : SameFields e f) :
    decode readTime f = decode readTime e := by
  simp only [decode, time?, h.object, h.id, h.name, h.comment, h.owner, h.creationTime,
    h.modificationTime, h.writable, h.inUse, h.permissions, h.tags]

/-! ## Forms of permissions and tags -/

/-- Elements with the same children but under the keys of lists, which list the same. -/
theorem sameFields_of_child?_eq {e f : Json} (hobject : f.isObject = e.isObject)
    (hchild : ∀ k, k ≠ "permissions" → k ≠ "user_tags" → child? f k = child? e k)
    (hpermissions : permissionsOf f = permissionsOf e) (htags : tagsOf f = tagsOf e) :
    SameFields e f where
  object := hobject
  id := by
    rw [id?, id?, attribute?, attribute?, hchild _ (by decide) (by decide),
      hchild "id" (by decide) (by decide)]
  name := by rw [childText?, childText?, hchild _ (by decide) (by decide)]
  comment := by rw [childText?, childText?, hchild _ (by decide) (by decide)]
  owner := by rw [path?_cons, path?_cons, hchild _ (by decide) (by decide)]
  creationTime := by rw [childText?, childText?, hchild _ (by decide) (by decide)]
  modificationTime := by rw [childText?, childText?, hchild _ (by decide) (by decide)]
  writable := by rw [flag, flag, hchild _ (by decide) (by decide)]
  inUse := by rw [flag, flag, hchild _ (by decide) (by decide)]
  permissions := hpermissions
  tags := htags

/-- A sole permission or tag may be bare, and without one the key may be missing. -/
theorem decode_eq_of_regrouped {e f : Json}
    (h : Changed Regrouped (.along ["permissions", "permission"] .here) (some e) (some f) ∨
      Changed Regrouped (.along ["user_tags", "tag"] .here) (some e) (some f)) :
    decode readTime f = decode readTime e := by
  refine decode_eq_of_sameFields ?_
  rcases h with h | h
  · refine sameFields_of_child?_eq h.isObject_eq (fun k hk _ => h.child?_eq_of_along hk) ?_ ?_
    · rw [permissionsOf, permissionsOf, h.path?.occurrences_eq]
    · rw [tagsOf, tagsOf, path?_cons, path?_cons, h.child?_eq_of_along (by decide)]
  · refine sameFields_of_child?_eq h.isObject_eq (fun k _ hk => h.child?_eq_of_along hk) ?_ ?_
    · rw [permissionsOf, permissionsOf, path?_cons, path?_cons,
        h.child?_eq_of_along (by decide)]
    · rw [tagsOf, tagsOf, h.path?.occurrences_eq]

/-! ## Spellings of leaves -/

/-- The leaves of a tag. -/
def tagLeaves : Places := .under fun
  | "_id" | "id" | "name" | "value" => .here
  | _ => .nowhere

/-- The leaves of an element. -/
def leaves : Places := .under fun
  | "_id" | "id" | "name" | "comment" | "creation_time" | "modification_time" => .here
  | "writable" | "in_use" => .here
  | "owner" => .along ["name"] .here
  | "permissions" => .along ["permission"] (.each (.along ["name"] .here))
  | "user_tags" => .along ["tag"] (.each tagLeaves)
  | _ => .nowhere

theorem filterMap_eq_of_forall₂ {α β : Type} {S : α → α → Prop} {f : α → Option β}
    (hf : ∀ x y, S x y → f y = f x) {xs ys : List α} (h : List.Forall₂ S xs ys) :
    ys.filterMap f = xs.filterMap f := by
  induction h with
  | nil => rfl
  | cons hxy _ ih => rw [List.filterMap_cons, List.filterMap_cons, hf _ _ hxy, ih]

section Leaves

variable {v w : Json} {key : String} (h : SameLeaf (child? v key) (child? w key))

include h

theorem childText?_eq : childText? w key = childText? v key := h.bind_eq Respelled.text?_eq

theorem flag_eq : flag w key = flag v key := by
  rw [flag, flag, h.bind_eq Respelled.flag?_eq]

end Leaves

theorem id?_eq {v w : Json} (hunderscored : SameLeaf (child? v "_id") (child? w "_id"))
    (hplain : SameLeaf (child? v "id") (child? w "id")) : id? w = id? v :=
  (SameLeaf.attribute? hunderscored hplain).bind_eq Respelled.text?_eq

theorem decodeTag?_eq {v w : Json} (h : Changed SameLeaf tagLeaves (some v) (some w)) :
    decodeTag? w = decodeTag? v := by
  have hleaf {key : String} (hkey : Changed SameLeaf .here (child? v key) (child? w key)) :=
    hkey.sameLeaf
  have hchild := Changed.child? h
  rw [decodeTag?, decodeTag?, id?_eq (hleaf (hchild "_id")) (hleaf (hchild "id")),
    childText?_eq (hleaf (hchild "name")), childText?_eq (hleaf (hchild "value"))]

theorem permissionsOf_eq {e f : Json} (h : Changed SameLeaf leaves (some e) (some f)) :
    permissionsOf f = permissionsOf e := by
  have hlist : Changed SameLeaf (.each (.along ["name"] .here))
      (path? e ["permissions", "permission"]) (path? f ["permissions", "permission"]) :=
    h.path?_cons rfl
  refine filterMap_eq_of_forall₂ (fun v w hitem => ?_) hlist.forall₂_occurrences
  exact childText?_eq (Changed.child? hitem "name").sameLeaf

theorem tagsOf_eq {e f : Json} (h : Changed SameLeaf leaves (some e) (some f)) :
    tagsOf f = tagsOf e := by
  have hlist : Changed SameLeaf (.each tagLeaves)
      (path? e ["user_tags", "tag"]) (path? f ["user_tags", "tag"]) := h.path?_cons rfl
  exact filterMap_eq_of_forall₂ (fun v w hitem => decodeTag?_eq hitem) hlist.forall₂_occurrences

/-- A leaf may be wrapped, and a whole number may be a text, at any of the leaves. -/
theorem decode_eq_of_respelled {e f : Json} (h : Changed SameLeaf leaves (some e) (some f)) :
    decode readTime f = decode readTime e := by
  have hleaf {key : String} (hkey : Changed SameLeaf .here (child? e key) (child? f key)) :=
    hkey.sameLeaf
  have hchild := Changed.child? h
  have howner : Changed SameLeaf .here (path? e ["owner", "name"]) (path? f ["owner", "name"]) :=
    h.path?_cons rfl
  exact decode_eq_of_sameFields {
    object := h.isObject_eq
    id := id?_eq (hleaf (hchild "_id")) (hleaf (hchild "id"))
    name := childText?_eq (hleaf (hchild "name"))
    comment := childText?_eq (hleaf (hchild "comment"))
    owner := howner.sameLeaf.bind_eq Respelled.text?_eq
    creationTime := childText?_eq (hleaf (hchild "creation_time"))
    modificationTime := childText?_eq (hleaf (hchild "modification_time"))
    writable := flag_eq (hleaf (hchild "writable"))
    inUse := flag_eq (hleaf (hchild "in_use"))
    permissions := permissionsOf_eq h
    tags := tagsOf_eq h }

end ListView.Entity
