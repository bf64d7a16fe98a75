import ListView.Proofs.Page.Outcome

/-!
# Paging that the elements carry

A response may have a paging element of its own, or its entity elements carry
the paging. What is read of paging are two attributes, and only the start and
the size of the page depend on them (`value_read`), so the two ways of decoding
agree in all else, and altogether if they find the same attributes
(`embeddedAgrees_decode`).
-/

namespace ListView.Page

open Element

variable {ε α : Type}

/-! ## Counts by paging -/

/-- Both elements, or none, give the same start and size of a page. -/
structure SamePaging (a b : Option Json) : Prop where
  start : a.bind (attribute? · "start") = b.bind (attribute? · "start")
  max : a.bind (attribute? · "max") = b.bind (attribute? · "max")

theorem value_readPaging_attributes (page : Option Json) :
    (Counts.readPaging page).value =
      ((Counts.unsigned .first (page.bind (attribute? · "start"))).value,
        (Counts.atLeast (-1) .rows (page.bind (attribute? · "max"))).value) := by
  cases page <;> rfl

/-- Without both elements all counts are zero, as they are when each is read for itself. -/
theorem value_read (count page : Option Json) :
    (Counts.read count page).value = {
      first := (Counts.readPaging page).value.1
      rows := (Counts.readPaging page).value.2
      length := (Counts.readTotals count).value.1
      all := (Counts.readTotals count).value.2.1
      filtered := (Counts.readTotals count).value.2.2 } := by
  cases count <;> cases page <;> rfl

theorem SamePaging.value_read_eq {a b : Option Json} (h : SamePaging a b) (count : Option Json) :
    (Counts.read count a).value = (Counts.read count b).value := by
  rw [value_read, value_read, value_readPaging_attributes, value_readPaging_attributes, h.start,
    h.max]

/-- A node that is no array is its own last occurrence, apart from `null`, which has no
attributes. -/
theorem samePaging_getLast?_occurrences {node : Option Json}
    (h : ∀ items, node ≠ some (.array items)) :
    SamePaging (occurrences node).getLast? node := by
  cases node with
  | none => exact ⟨rfl, rfl⟩
  | some v =>
    cases v with
    | null => exact ⟨rfl, rfl⟩
    | array items => exact absurd rfl (h items)
    | bool _ | int _ | float _ | string _ | object _ => exact ⟨rfl, rfl⟩

/-! ## Pages by paging -/

/-- Both fail for the same cause, or both are pages that differ in their start and size at most. -/
inductive AgreeApartFromPaging :
    Except (DecodeError ε) (Page α) → Except (DecodeError ε) (Page α) → Prop where
  | error (e : DecodeError ε) : AgreeApartFromPaging (.error e) (.error e)
  | page {p q : Page α} : p.entities = q.entities → p.filter.terms = q.filter.terms →
      p.counts.length = q.counts.length → p.counts.all = q.counts.all →
      p.counts.filtered = q.counts.filtered → AgreeApartFromPaging (.ok p) (.ok q)

section Decode

variable {paging paging' : Json → Option Json} {l : Layout} {keyword : String}
  {decoder : Json → Except ε α} {r : Json}

theorem agreeApartFromPaging_decodeBy :
    AgreeApartFromPaging (decodeBy paging l keyword decoder r).value
      (decodeBy paging' l keyword decoder r).value := by
  cases hobject : r.isObject with
  | false =>
    rw [value_decodeBy_of_not_object hobject, value_decodeBy_of_not_object hobject]
    exact .error _
  | true =>
    rw [value_decodeBy hobject, value_decodeBy hobject]
    cases decodeFrom decoder keyword 0
        (occurrences (l.entitiesNode keyword (scope l r).value)) with
    | error e => exact .error e
    | ok entities =>
      simp only [value_read]
      exact .page rfl rfl rfl rfl rfl

theorem value_decodeBy_eq_of_samePaging
    (h : SamePaging (paging (scope l r).value) (paging' (scope l r).value)) :
    (decodeBy paging l keyword decoder r).value = (decodeBy paging' l keyword decoder r).value := by
  cases hobject : r.isObject with
  | false => rw [value_decodeBy_of_not_object hobject, value_decodeBy_of_not_object hobject]
  | true => rw [value_decodeBy hobject, value_decodeBy hobject, h.value_read_eq]

end Decode

/-! ## Both decoders -/

section Embedded

variable {l : Layout} {keyword : String}

theorem samePaging_of_path {keys : List String} (hpath : l.paging = some keys) {s : Json}
    (h : ∀ items, path? s keys ≠ some (.array items)) :
    SamePaging (l.embeddedPagingNode keyword s) (l.pagingNode keyword s) := by
  rw [Layout.embeddedPagingNode, Layout.pagingNode, hpath]
  exact samePaging_getLast?_occurrences h

theorem embeddedPagingNode_eq_getLast? (hpath : l.paging = none) (r : Json) :
    l.embeddedPagingNode keyword (scope l r).value = (elements l keyword r).getLast? := by
  rw [Layout.embeddedPagingNode, hpath]
  rfl

end Embedded

/-- What decoding with embedded paging has in common with decoding: all but the start and the size
of the page. These stand on the last element, unless there is a path for them. -/
structure EmbeddedAgrees (l : Layout) (keyword : String) (decoder : Json → Except ε α)
    (r : Json) : Prop where
  agree : AgreeApartFromPaging (decodeEmbedded l keyword decoder r).value
    (decode l keyword decoder r).value
  path : ∀ keys, l.paging = some keys →
    (∀ items, path? (scope l r).value keys ≠ some (.array items)) →
      (decodeEmbedded l keyword decoder r).value = (decode l keyword decoder r).value
  lastElement : l.paging = none → ∀ last, (elements l keyword r).getLast? = some last →
    ∀ p, (decodeEmbedded l keyword decoder r).value = .ok p → ∀ count,
      p.counts.first = (Counts.read count (some last)).value.first ∧
        p.counts.rows = (Counts.read count (some last)).value.rows
  noElement : l.paging = none → elements l keyword r = [] → ∀ p,
    (decodeEmbedded l keyword decoder r).value = .ok p →
      p.counts.first = 0 ∧ p.counts.rows = 0
  sameAttributes : l.paging = none → ∀ last, (elements l keyword r).getLast? = some last →
    ∀ page, l.pagingNode keyword (scope l r).value = some page →
      attribute? page "start" = attribute? last "start" →
      attribute? page "max" = attribute? last "max" →
        (decodeEmbedded l keyword decoder r).value = (decode l keyword decoder r).value

theorem embeddedAgrees_decode (l : Layout) (keyword : String) (decoder : Json → Except ε α)
    (r : Json) : EmbeddedAgrees l keyword decoder r where
  agree := agreeApartFromPaging_decodeBy
  path keys hpath h := value_decodeBy_eq_of_samePaging (samePaging_of_path hpath h)
  lastElement hpath last hlast p hp count := by
    rw [(parts_of_value_decodeBy hp).2, embeddedPagingNode_eq_getLast? hpath, hlast, value_read,
      value_read]
    exact ⟨rfl, rfl⟩
  noElement hpath hempty p hp := by
    rw [(parts_of_value_decodeBy hp).2, embeddedPagingNode_eq_getLast? hpath, hempty, value_read]
    exact ⟨rfl, rfl⟩
  sameAttributes hpath last hlast page hpage hstart hmax := by
    refine value_decodeBy_eq_of_samePaging ?_
    rw [embeddedPagingNode_eq_getLast? hpath, hlast, hpage]
    exact ⟨hstart.symm, hmax.symm⟩

/-- Two tasks, of which the second carries the paging. -/
def pagedTasks : String × Json := ("task", .array [.object [("_id", .int 7)],
  .object [("_id", .int 8), ("_start", .string "11"), ("max", .int 10)]])

/-- The same paging as an element of its own. -/
def taskPaging : String × Json := ("tasks", .object [("start", .string "11"), ("_max", .int 10)])

theorem embeddedAgrees_decode_paged :
    (decodeEmbedded .default "task" (Entity.decode Timestamp.read?)
        (.object [pagedTasks, taskPaging])).value =
        (decode .default "task" (Entity.decode Timestamp.read?)
          (.object [pagedTasks, taskPaging])).value ∧
      ∃ p, (decodeEmbedded .default "task" (Entity.decode Timestamp.read?)
          (.object [pagedTasks])).value = .ok p ∧
        p.counts.first = 11 ∧ p.counts.rows = 10 := by
  have hboth := embeddedAgrees_decode .default "task" (Entity.decode Timestamp.read?)
    (.object [pagedTasks, taskPaging])
  have halone := embeddedAgrees_decode .default "task" (Entity.decode Timestamp.read?)
    (.object [pagedTasks])
  refine ⟨hboth.sameAttributes rfl _ rfl _ rfl rfl rfl, _, rfl, ?_⟩
  exact halone.lastElement rfl _ rfl _ rfl none

end ListView.Page
