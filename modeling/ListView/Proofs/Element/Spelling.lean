import ListView.Proofs.Decimal.Reader
import ListView.Proofs.Element.Change

/-!
# Spellings of a leaf

A leaf may stand in wrappers, one in the other, and a whole number may be
spelled as a text. The text, the number and the flag that a leaf says do not
depend on it (`Respelled.text?_eq`, `Respelled.number?_eq`,
`Respelled.flag?_eq`).
-/

namespace ListView.Element

/-- An element that has a text and nothing else. -/
def wrap (v : Json) : Json := .object [(textKey, v)]

/-- The second leaf is the first, or the digits of the first, in any number of wrappers. -/
inductive Respelled : Json → Json → Prop where
  | same (v : Json) : Respelled v v
  | digits {n : Int} : Decimal.minInt ≤ n → n ≤ Decimal.maxInt →
      Respelled (.int n) (.string (toString n))
  | wrapped {v w : Json} : Respelled v w → w.isNull = false → Respelled v (wrap w)

/-- Both leaves are missing, or one is the other in another spelling. -/
def SameLeaf : Option Json → Option Json → Prop := Option.Rel Respelled

theorem content_wrap (v : Json) : content (wrap v) = content v := by
  rw [wrap, content, contentOf_eq, Json.lookup_cons_self]
  rfl

theorem text?_object (fields : List (String × Json)) :
    text? (.object fields) = (Json.lookup textKey fields).bind text? := by
  rw [text?, content, contentOf_eq]
  cases Json.lookup textKey fields with
  | none => rfl
  | some v => rfl

theorem text?_wrap (v : Json) : text? (wrap v) = text? v := by
  rw [text?, text?, content_wrap]

theorem number?_wrap (v : Json) : number? (wrap v) = number? v := by
  rw [number?, number?, content_wrap]

theorem number?_int {n : Int} (hlow : Decimal.minInt ≤ n) (hhigh : n ≤ Decimal.maxInt) :
    number? (.int n) = some n := by
  have hclamp : clamp n = n := by
    unfold clamp
    omega
  simp only [number?, content, hclamp]

namespace Respelled

variable {v w : Json} (h : Respelled v w)

include h

theorem text?_eq : text? w = text? v := by
  induction h with
  | same => rfl
  | digits => rfl
  | wrapped _ _ ih => rw [text?_wrap, ih]

theorem number?_eq : number? w = number? v := by
  induction h with
  | same => rfl
  | @digits n hlow hhigh =>
    have hread := Decimal.readInt_trim_toString_int hlow hhigh
    have hstring : number? (.string (toString n)) = numberOf (toString n) := rfl
    rw [number?_int hlow hhigh, hstring]
    simp only [numberOf, hread]
  | wrapped _ _ ih => rw [number?_wrap, ih]

theorem flag?_eq : flag? w = flag? v := by
  rw [flag?, flag?, h.text?_eq]

theorem isNull_eq : w.isNull = v.isNull := by
  induction h with
  | same => rfl
  | digits => rfl
  | wrapped _ hnull ih => exact hnull.symm.trans ih

/-- What a leaf is respelled as has no field but a text, unless it had others before. -/
theorem child?_eq_none {key : String} (hobject : v.isObject = false) (hkey : textKey ≠ key) :
    child? w key = none := by
  cases h with
  | same => exact child?_of_not_object hobject key
  | digits => rfl
  | wrapped _ _ =>
    rw [wrap, child?_object, Json.lookup_cons_of_ne _ _ hkey]
    rfl

end Respelled

theorem SameLeaf.present {a b : Option Json} (h : SameLeaf a b) :
    SameLeaf (present a) (present b) := by
  cases h with
  | none => exact .none
  | @some v w h =>
    cases hnull : v.isNull with
    | false =>
      rw [present_of_not_null hnull, present_of_not_null (h.isNull_eq.trans hnull)]
      exact .some h
    | true =>
      have hw := h.isNull_eq.trans hnull
      simp only [Element.present, Option.filter, hnull, hw]
      exact .none

instance : IgnoresNull SameLeaf := ⟨SameLeaf.present⟩

theorem Changed.sameLeaf {a b : Option Json} (h : Changed SameLeaf .here a b) : SameLeaf a b := by
  rcases h.of_here with rfl | h
  · cases a with
    | none => exact .none
    | some v => exact .some (.same v)
  · exact h

/-- What is read from a leaf in any spelling is read from it where it is missing, too. -/
theorem SameLeaf.bind_eq {α : Type} {f : Json → Option α}
    (hf : ∀ {v w}, Respelled v w → f w = f v) {a b : Option Json} (h : SameLeaf a b) :
    b.bind f = a.bind f := by
  cases h with
  | none => rfl
  | some h => exact hf h

/-- An attribute is the same leaf if it is under either of its names. -/
theorem SameLeaf.attribute? {v w : Json} {name : String}
    (hunderscored : SameLeaf (child? v ("_" ++ name)) (child? w ("_" ++ name)))
    (hplain : SameLeaf (child? v name) (child? w name)) :
    SameLeaf (attribute? v name) (attribute? w name) := by
  unfold Element.attribute?
  generalize child? v ("_" ++ name) = a at hunderscored
  generalize child? w ("_" ++ name) = b at hunderscored
  cases hunderscored with
  | none => exact hplain
  | some h => exact .some h

end ListView.Element
