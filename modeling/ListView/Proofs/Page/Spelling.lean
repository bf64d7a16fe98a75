import ListView.Proofs.Page.Form

/-!
# Spellings in a response

Whether a leaf is wrapped, and whether a whole number is a number or a text,
makes no difference: not to an entity, not to the counts and not to the filter
of a page (`decode_congr_spelling`).
-/

namespace ListView

open Element
open Layout (lastText textOfFilters)

namespace Counts

/-- The leaves of the paging element. -/
def pagingLeaves : Places := .under fun
  | "_start" | "start" | "_max" | "max" => .here
  | _ => .nowhere

/-- The leaves of the count element. -/
def totalsLeaves : Places := .under fun
  | "page" | "filtered" | "__text" => .here
  | _ => .nowhere

/-- The second count element is the first with other spellings of its leaves, or it is a leaf
itself. -/
inductive SameTotals : Option Json → Option Json → Prop where
  | leaves {a b : Option Json} : Changed SameLeaf totalsLeaves a b → SameTotals a b
  | bare {v w : Json} : v.isObject = false → Respelled v w → SameTotals (some v) (some w)

theorem number?_total? (count : Json) : (total? count).bind number? = number? count := by
  cases count with
  | object fields =>
    cases htext : Json.lookup textKey fields with
    | none => simp [total?, number?, content, contentOf_eq, htext]
    | some v => simp [total?, number?, content, contentOf_eq, htext]
  | _ => rfl

section Field

variable {a b : Option Json} (h : SameLeaf a b)

include h

theorem atLeast_eq (least : Int) (field : CountField) :
    atLeast least field b = atLeast least field a := by
  rw [atLeast, atLeast, h.bind_eq Respelled.number?_eq]

theorem unsigned_eq (field : CountField) : unsigned field b = unsigned field a := by
  rw [unsigned, unsigned, atLeast_eq h]

end Field

theorem unsigned_total?_eq {v w : Json} (h : number? w = number? v) (field : CountField) :
    unsigned field (total? w) = unsigned field (total? v) := by
  rw [unsigned, unsigned, atLeast, atLeast, number?_total?, number?_total?, h]

theorem readPaging_eq {a b : Option Json} (h : Changed SameLeaf pagingLeaves a b) :
    readPaging b = readPaging a := by
  rcases Changed.of_under h with rfl | ⟨fs, gs, rfl, rfl, -⟩
  · rfl
  · have hchild := Changed.child? h
    have hstart : SameLeaf (attribute? (.object fs) "start") (attribute? (.object gs) "start") :=
      .attribute? (Changed.sameLeaf (hchild "_start")) (Changed.sameLeaf (hchild "start"))
    have hmax : SameLeaf (attribute? (.object fs) "max") (attribute? (.object gs) "max") :=
      .attribute? (Changed.sameLeaf (hchild "_max")) (Changed.sameLeaf (hchild "max"))
    rw [readPaging, readPaging, unsigned_eq hstart, atLeast_eq hmax]

theorem readTotals_eq {a b : Option Json} (h : SameTotals a b) : readTotals b = readTotals a := by
  cases h with
  | leaves h =>
    rcases Changed.of_under h with rfl | ⟨fs, gs, rfl, rfl, hkeys⟩
    · rfl
    · have hchild := Changed.child? h
      have hpage := Changed.sameLeaf (hchild "page")
      have hfiltered := Changed.sameLeaf (hchild "filtered")
      have htotal : SameLeaf (total? (.object fs)) (total? (.object gs)) :=
        Changed.sameLeaf (hkeys "__text")
      rw [readTotals, readTotals, unsigned_eq hpage, unsigned_eq htotal, unsigned_eq hfiltered]
  | @bare v w hobject h =>
    have hnone {key : String} (hkey : textKey ≠ key) : child? w key = child? v key := by
      rw [h.child?_eq_none hobject hkey, (Respelled.same v).child?_eq_none hobject hkey]
    rw [readTotals, readTotals, hnone (by decide), hnone (by decide),
      unsigned_total?_eq h.number?_eq]

theorem SameTotals.isNone_eq {a b : Option Json} (h : SameTotals a b) : b.isNone = a.isNone := by
  cases h with
  | leaves h => exact Changed.isNone_eq h
  | bare => rfl

theorem read_eq_of_respelled {count count' page page' : Option Json}
    (hcount : SameTotals count count') (hpage : Changed SameLeaf pagingLeaves page page') :
    read count' page' = read count page := by
  rw [read, read, hcount.isNone_eq, Changed.isNone_eq hpage, readPaging_eq hpage,
    readTotals_eq hcount]

end Counts

namespace Page

variable {ε α : Type}

/-! ## The filter -/

/-- The leaf has a text of its own. -/
inductive IsScalar : Json → Prop where
  | bool (b : Bool) : IsScalar (.bool b)
  | int (n : Int) : IsScalar (.int n)
  | float (x : Float) : IsScalar (.float x)
  | string (s : String) : IsScalar (.string s)

/-- The second node is a text, a number or a flag as the first, in another spelling. -/
def SameScalar (a b : Option Json) : Prop :=
  ∃ v w, a = some v ∧ b = some w ∧ IsScalar v ∧ Respelled v w

theorem occurrences_of_isScalar {v w : Json} (hv : IsScalar v) (h : Respelled v w) :
    occurrences (some w) = [w] := by
  cases h with
  | same => cases hv <;> rfl
  | digits => rfl
  | wrapped => rfl

theorem SameScalar.present {a b : Option Json} (h : SameScalar a b) :
    SameScalar (present a) (present b) := by
  obtain ⟨v, w, rfl, rfl, hv, hrespelled⟩ := h
  have hnull : v.isNull = false := by cases hv <;> rfl
  rw [present_of_not_null hnull, present_of_not_null (hrespelled.isNull_eq.trans hnull)]
  exact ⟨v, w, rfl, rfl, hv, hrespelled⟩

instance : IgnoresNull SameScalar := ⟨SameScalar.present⟩

theorem keepsText_sameScalar : KeepsText SameScalar := by
  rintro a b ⟨v, w, rfl, rfl, hv, h⟩
  refine ⟨v, w, rfl, rfl, ?_⟩
  rw [lastText, lastText, occurrences_of_isScalar hv h, occurrences_of_isScalar hv (.same v)]
  exact h.text?_eq

/-- Bare text has no terms, in whatever spelling. -/
theorem textOfFilters_of_isScalar {v w : Json} (hv : IsScalar v) (h : Respelled v w) :
    textOfFilters w = text? w := by
  have hobject : v.isObject = false := by cases hv <;> rfl
  rw [textOfFilters, h.child?_eq_none hobject (by decide), Option.getD_none, lastText,
    occurrences_of_isScalar hv h]
  rfl

/-- The second response is the first but for the spelling of its filters, if these are bare text,
or of the terms in its filters. -/
inductive FilterRespelled (l : Layout) (r r' : Json) : Prop where
  | filters : Changed SameScalar (.along (l.root ++ [Layout.filtersKey]) .here) (some r) (some r') →
      FilterRespelled l r r'
  | terms : Changed SameScalar (.along (l.root ++ [Layout.filtersKey])
      (.each (.along [Layout.termKey] .here))) (some r) (some r') → FilterRespelled l r r'

theorem filterText_eq_of_filters {l : Layout} (hl : l.filter = none) {s t : Json}
    (h : Changed SameScalar (.along [Layout.filtersKey] .here) (some s) (some t)) :
    l.filterText t = l.filterText s := by
  have hfilters := h.path?
  rw [path?_singleton, path?_singleton] at hfilters
  rw [Layout.filterText_eq hl, Layout.filterText_eq hl]
  rcases hfilters.of_here with heq | ⟨v, w, hs, ht, hv, hrespelled⟩
  · rw [heq]
  · rw [hs, ht, occurrences_of_isScalar hv hrespelled, occurrences_of_isScalar hv (.same v)]
    have hw := textOfFilters_of_isScalar hv hrespelled
    have hv := textOfFilters_of_isScalar hv (.same v)
    simp [hw, hv, hrespelled.text?_eq]

/-- The places of the scope at which a respelled filter differs. -/
theorem FilterRespelled.exists_changed {l : Layout} (hl : l.filter = none) {r r' : Json}
    (h : FilterRespelled l r r') :
    ∃ places,
      Changed SameScalar (.along (l.root ++ [Layout.filtersKey]) places) (some r) (some r') ∧
      ∀ s t, Changed SameScalar (.along [Layout.filtersKey] places) (some s) (some t) →
        l.filterText t = l.filterText s := by
  cases h with
  | filters h => exact ⟨_, h, fun _ _ => filterText_eq_of_filters hl⟩
  | terms h => exact ⟨_, h, fun _ _ => filterText_eq_of_terms keepsText_sameScalar hl⟩

theorem readFilter_eq_of_respelled {l : Layout} (hl : l.filter = none) {r r' : Json}
    (h : FilterRespelled l r r') :
    readFilter l (scope l r').value = readFilter l (scope l r).value := by
  obtain ⟨places, hchanged, htext⟩ := h.exists_changed hl
  rw [Places.along_append] at hchanged
  have hroot : Option.Rel (fun s t => l.filterText t = l.filterText s) (path? r l.root)
      (path? r' l.root) := hchanged.path?.rel (fun _ => rfl) htext
  have hscope : l.filterText (scope l r').value = l.filterText (scope l r).value := by
    unfold scope
    generalize path? r l.root = a at hroot
    generalize path? r' l.root = b at hroot
    cases hroot with
    | none => rfl
    | some h => exact h
  rw [readFilter, readFilter, hscope]

theorem filter_eq_of_filterRespelled {l : Layout} (hl : l.filter = none) {r r' : Json}
    (h : FilterRespelled l r r') {paging : Json → Option Json} {keyword : String}
    {decoder : Json → Except ε α} {p p' : Page α}
    (hp : (decodeBy paging l keyword decoder r).value = .ok p)
    (hp' : (decodeBy paging l keyword decoder r').value = .ok p') : p'.filter = p.filter := by
  rw [(parts_of_value_decodeBy hp).1, (parts_of_value_decodeBy hp').1,
    readFilter_eq_of_respelled hl h]

theorem decode_eq_of_filterRespelled {l : Layout} (hl : l.Usual) {keyword : String}
    (hkeys : (l.usualKeys keyword).Nodup) {r r' : Json} (h : FilterRespelled l r r')
    (decoder : Json → Except ε α) :
    decode l keyword decoder r' = decode l keyword decoder r ∧
      decodeEmbedded l keyword decoder r' = decodeEmbedded l keyword decoder r := by
  obtain ⟨places, hchanged, htext⟩ := h.exists_changed hl.filter
  refine decode_eq_of_changed hchanged (fun s t hscope => ?_) decoder
  exact sameParts_of_filters hl hkeys (fun _ hk => hscope.child?_eq_of_along hk) (htext s t hscope)

/-- Neither an entity nor the counts nor the filter of a page depends on how leaves are spelled. -/
theorem decode_congr_spelling :
    (∀ (readTime : List Char → Option Timestamp) {e f : Json},
      Changed SameLeaf Entity.leaves (some e) (some f) →
        Entity.decode readTime f = Entity.decode readTime e) ∧
    (∀ {count count' page page' : Option Json}, Counts.SameTotals count count' →
      Changed SameLeaf Counts.pagingLeaves page page' →
        Counts.read count' page' = Counts.read count page) ∧
    (∀ {l : Layout}, l.filter = none → ∀ {r r' : Json}, FilterRespelled l r r' →
      readFilter l (scope l r').value = readFilter l (scope l r).value ∧
        ∀ (keyword : String) (decoder : Json → Except ε α) {p p' : Page α},
          (decode l keyword decoder r).value = .ok p →
            (decode l keyword decoder r').value = .ok p' → p'.filter = p.filter) ∧
    ∀ {l : Layout}, l.Usual → ∀ {keyword : String}, (l.usualKeys keyword).Nodup →
      ∀ {r r' : Json}, FilterRespelled l r r' → ∀ decoder : Json → Except ε α,
        decode l keyword decoder r' = decode l keyword decoder r ∧
          decodeEmbedded l keyword decoder r' = decodeEmbedded l keyword decoder r := by
  refine ⟨fun _ _ _ => Entity.decode_eq_of_respelled, Counts.read_eq_of_respelled, ?_, ?_⟩
  · intro l hl r r' h
    exact ⟨readFilter_eq_of_respelled hl h, fun _ _ _ _ => filter_eq_of_filterRespelled hl h⟩
  · intro l hl keyword hkeys r r' h decoder
    exact decode_eq_of_filterRespelled hl hkeys h decoder

theorem decode_congr_spelling_wrapped :
    Entity.decode Timestamp.read? (.object [("user_tags", .object [("tag", .array [.object [
        ("id", wrap (wrap (.string "-3"))), ("name", .string "site")]])]), ("_id", .int 7)]) =
      Entity.decode Timestamp.read? (.object [("user_tags", .object [("tag", .array [.object [
        ("id", .int (-3)), ("name", .string "site")]])]), ("_id", .int 7)]) ∧
    Counts.read (some (wrap (.string "5"))) (some (.object [("_start", wrap (.int 1))])) =
      Counts.read (some (.int 5)) (some (.object [("_start", .int 1)])) ∧
    (∃ p p' : Page Entity,
      (decode .default "task" (Entity.decode Timestamp.read?)
        (.object [("filters", .string "rows=5")])).value = .ok p ∧
      (decode .default "task" (Entity.decode Timestamp.read?)
        (.object [("filters", wrap (.string "rows=5"))])).value = .ok p' ∧
      p'.filter = p.filter) ∧
    (decode .default "task" (Entity.decode Timestamp.read?)
        (.object [("filters", .object [("term", wrap (.string "rows=5"))])]) =
        decode .default "task" (Entity.decode Timestamp.read?)
          (.object [("filters", .object [("term", .string "rows=5")])]) ∧
      decodeEmbedded .default "task" (Entity.decode Timestamp.read?)
          (.object [("filters", .object [("term", wrap (.string "rows=5"))])]) =
        decodeEmbedded .default "task" (Entity.decode Timestamp.read?)
          (.object [("filters", .object [("term", .string "rows=5")])])) := by
  have hdigits {n : Int} (hlow : Decimal.minInt ≤ n) (hhigh : n ≤ Decimal.maxInt) :
      Respelled (.int n) (wrap (.string (toString n))) := .wrapped (.digits hlow hhigh) rfl
  refine ⟨?_, ?_, ?_, ?_⟩
  · refine (decode_congr_spelling (ε := Entity.Error) (α := Entity)).1 Timestamp.read? ?_
    refine Changed.field ?_ _
    refine Changed.along_field (.cons ?_ (.same _ _)) _
    refine Changed.field (.here (.some ?_)) _
    exact .wrapped (hdigits (by decide) (by decide)) rfl
  · refine (decode_congr_spelling (ε := Entity.Error) (α := Entity)).2.1 (.bare rfl ?_) ?_
    · exact hdigits (by decide) (by decide)
    · exact Changed.field (.here (.some (.wrapped (.same _) rfl))) _
  · have hfilters : FilterRespelled .default (.object [("filters", .string "rows=5")])
        (.object [("filters", wrap (.string "rows=5"))]) :=
      .filters (Changed.along_field (.here ⟨_, _, rfl, rfl, .string _, .wrapped (.same _) rfl⟩) [])
    exact ⟨_, _, rfl, rfl,
      (decode_congr_spelling.2.2.1 rfl hfilters).2 "task" (Entity.decode Timestamp.read?) rfl rfl⟩
  · refine decode_congr_spelling.2.2.2 ⟨rfl, rfl, rfl, rfl⟩ (by decide) (.terms ?_)
      (Entity.decode Timestamp.read?)
    refine Changed.along_field (.bare (Changed.along_field (.here ?_) [])) []
    exact ⟨_, _, rfl, rfl, .string _, .wrapped (.same _) rfl⟩

end Page

end ListView
