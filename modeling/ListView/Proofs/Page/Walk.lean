import ListView.Proofs.Filter.Paging
import ListView.Proofs.Page.Decode
import ListView.Proofs.Page.Navigation

/-!
# Walking a list page by page

A server holds a list of elements and answers a request with the page that is
asked for. A client decodes the page, and as long as there is a next one asks
for it by the page's own filter. Its walk comes to an end, whatever form the
server gives to each answer, and its pages hold the entities from the start to
the end of the list, each once and in order (`exists_walk`). A client that
starts behind the end of the list does not come to an end
(`length_walk_of_behind_end`).
-/

open ListView.Filter

namespace ListView.Page

variable {ε α : Type}

/-! ## Answers -/

/-- What stands under the entity key: nothing, an element, or an array of all elements. -/
inductive Sent : List Json → Option Json → Prop where
  | none : Sent [] none
  | bare (element : Json) : Sent [element] (some element)
  | array (elements : List Json) : elements ≠ [] → Sent elements (some (.array elements))

/-- An object with these fields stands under the key. -/
def HasObject (fields : List (String × Json)) (key : String)
    (parts : List (String × Json)) : Prop :=
  ∃ inner, Json.lookup key fields = some (.object inner) ∧
    ∀ part ∈ parts, Json.lookup part.1 inner = some part.2

/-- The elements of a page of `size` that begins at the place `start`, counted from 1. -/
def slice (elements : List Json) (size : Int) (start : Nat) : List Json :=
  (elements.drop (start - 1)).take size.toNat

/-- The fields of an answer to the request `q` for a page of `size` from `start` on. -/
structure Answers (elements : List Json) (keyword : String) (plural : Option String) (q : Filter)
    (size : Int) (start : Nat) (fields : List (String × Json)) : Prop where
  entities : Sent (slice elements size start) (Json.lookup keyword fields)
  paging : HasObject fields (plural.getD (keyword ++ "s"))
    [("_start", .nat start), ("_max", .int size)]
  counts : ∃ total, HasObject fields (keyword ++ "_count")
    [("page", .nat (slice elements size start).length), ("__text", total),
      ("filtered", .nat elements.length)]
  filter : HasObject fields "filters" [("term", .string q.print)]

/-- A server that gives the `n`-th request its page, in a form that may change with `n`. -/
def Serves (elements : List Json) (keyword : String) (plural : Option String)
    (respond : Nat → Filter → Json) : Prop :=
  ∀ n q size start, q.rows.value = some size → 1 ≤ size → q.first.value = some start →
    ∃ fields, respond n q = .object fields ∧
      Answers elements keyword plural q size start fields

/-- The layout that only names the plural. -/
def pluralLayout (plural : Option String) : Layout := { Layout.default with plural }

theorem HasObject.child? {fields parts : List (String × Json)} {key : String}
    (h : HasObject fields key parts) : ∃ inner,
      Element.child? (.object fields) key = some (.object inner) ∧
        ∀ part ∈ parts, part.2.isNull = false →
          Element.child? (.object inner) part.1 = some part.2 := by
  obtain ⟨inner, hlookup, hparts⟩ := h
  refine ⟨inner, ?_, fun part hpart hnull => ?_⟩
  · simp [Element.child?, hlookup, Json.isNull]
  · simp [Element.child?, hparts part hpart, hnull]

theorem occurrences_of_sent {elements : List Json} {node : Option Json} (h : Sent elements node)
    (hobj : ∀ e ∈ elements, e.isObject = true) :
    occurrences (node.filter (!·.isNull)) = elements := by
  cases h with
  | none => rfl
  | bare element =>
    have helement := hobj element List.mem_cons_self
    cases element with
    | object fields => rfl
    | _ => cases helement
  | array elements _ => rfl

/-! ## The page of an answer -/

theorem length_slice (elements : List Json) (size : Int) (start : Nat) :
    (slice elements size start).length = min size.toNat (elements.length - (start - 1)) := by
  rw [slice, List.length_take, List.length_drop]

section Answer

variable {elements : List Json} {keyword : String} {plural : Option String} {q : Filter}
  {size : Int} {start : Nat} {fields : List (String × Json)}
  (h : Answers elements keyword plural q size start fields)

include h

theorem value_readFilter :
    (readFilter (pluralLayout plural) (.object fields)).value = ofString q.print := by
  obtain ⟨inner, hchild, hparts⟩ := h.filter.child?
  have hterm := hparts _ List.mem_cons_self rfl
  have htext : (pluralLayout plural).filterText (.object fields) = some q.print := by
    simp only [Layout.filterText, Layout.filterNode, pluralLayout, Layout.default,
      Layout.filtersKey, Layout.termKey, hchild, occurrences, List.getLast?_singleton,
      Option.map_some, hterm, Option.getD_some, Option.bind_some]
    rfl
  rw [readFilter, htext]
  rfl

theorem value_readCounts (hlength : (elements.length : Int) ≤ Decimal.maxInt)
    (hstart : (start : Int) ≤ Decimal.maxInt) (hpos : 1 ≤ size) (hsize : size ≤ Decimal.maxInt) :
    ∃ all, (Counts.read ((pluralLayout plural).countsNode keyword (.object fields))
        ((pluralLayout plural).pagingNode keyword (.object fields))).value =
      ⟨start, size, (slice elements size start).length, all, elements.length⟩ := by
  obtain ⟨total, hcounts⟩ := h.counts
  obtain ⟨count, hcount, hcountParts⟩ := hcounts.child?
  obtain ⟨page, hpage, hpageParts⟩ := h.paging.child?
  have hsent : ((slice elements size start).length : Int) ≤ Decimal.maxInt := by
    have hslice := length_slice elements size start
    omega
  have hpaging := value_readPaging (hpageParts ("_start", _) List.mem_cons_self rfl)
    (hpageParts ("_max", _) (.tail _ List.mem_cons_self) rfl) hstart hpos hsize
  obtain ⟨all, htotals⟩ := value_readTotals (hcountParts ("page", _) List.mem_cons_self rfl)
    (hcountParts ("filtered", _) (.tail _ (.tail _ List.mem_cons_self)) rfl) hsent hlength
  refine ⟨all, ?_⟩
  have hcountsNode : (pluralLayout plural).countsNode keyword (.object fields) =
      some (.object count) := hcount
  have hpagingNode : (pluralLayout plural).pagingNode keyword (.object fields) =
      some (.object page) := hpage
  rw [hcountsNode, hpagingNode, Counts.read]
  simp only [Option.isNone_some, Bool.and_self, Bool.false_eq_true, if_false, Logged.value_bind,
    Logged.value_pure, hpaging, htotals]

/-- The page that an answer decodes to. -/
theorem value_decode_of_answers {decoder : Json → Except ε α} {d : Json → α}
    (hd : ∀ e ∈ elements, decoder e = .ok (d e)) (hobj : ∀ e ∈ elements, e.isObject = true)
    (hlength : (elements.length : Int) ≤ Decimal.maxInt)
    (hstart : (start : Int) ≤ Decimal.maxInt) (hpos : 1 ≤ size) (hsize : size ≤ Decimal.maxInt) :
    ∃ all, (decode (pluralLayout plural) keyword decoder (.object fields)).value = .ok {
      entities := (slice elements size start).map d
      filter := ofString q.print
      counts := ⟨start, size, (slice elements size start).length, all, elements.length⟩ } := by
  have hmem : ∀ e ∈ slice elements size start, e ∈ elements := fun e he =>
    List.mem_of_mem_drop (List.mem_of_mem_take he)
  have hnode : occurrences ((pluralLayout plural).entitiesNode keyword (.object fields)) =
      slice elements size start :=
    occurrences_of_sent h.entities fun e he => hobj e (hmem e he)
  have hentities := decodeFrom_of_ok (fun e he => hd e (hmem e he)) keyword 0
  rw [← hnode] at hentities
  obtain ⟨all, hcounts⟩ := value_readCounts h hlength hstart hpos hsize
  refine ⟨all, ?_⟩
  rw [value_decode rfl keyword hentities, value_readFilter h, hcounts, hnode]

end Answer

/-! ## A server -/

/-- The field in which elements are sent, if there are any. -/
def sentFields (keyword : String) : List Json → List (String × Json)
  | [] => []
  | [element] => [(keyword, element)]
  | e :: f :: rest => [(keyword, .array (e :: f :: rest))]

/-- What an answer says about its page. -/
def pageFields (elements : List Json) (keyword : String) (plural : Option String) (q : Filter)
    (size : Int) (start : Nat) : List (String × Json) :=
  [(plural.getD (keyword ++ "s"), .object [("_start", .nat start), ("_max", .int size)]),
    (keyword ++ "_count", .object [("page", .nat (slice elements size start).length),
      ("__text", .nat elements.length), ("filtered", .nat elements.length)]),
    ("filters", .object [("term", .string q.print)])]

def answer (elements : List Json) (keyword : String) (plural : Option String) (q : Filter)
    (size : Int) (start : Nat) : List (String × Json) :=
  sentFields keyword (slice elements size start) ++
    pageFields elements keyword plural q size start

def serve (elements : List Json) (keyword : String) (plural : Option String) (_ : Nat)
    (q : Filter) : Json :=
  .object (answer elements keyword plural q (q.rows.value.getD 0) (q.first.value.getD 1))

theorem sent_lookup {keyword : String} {rest : List (String × Json)}
    (h : Json.lookup keyword rest = none) (elements : List Json) :
    Sent elements (Json.lookup keyword (sentFields keyword elements ++ rest)) := by
  match elements with
  | [] =>
    rw [sentFields, List.nil_append, h]
    exact .none
  | [element] =>
    rw [sentFields, List.singleton_append, Json.lookup_cons_self]
    exact .bare element
  | e :: f :: rest' =>
    rw [sentFields, List.singleton_append, Json.lookup_cons_self]
    exact .array _ (List.cons_ne_nil e _)

theorem lookup_sentFields_append {keyword key : String} (h : keyword ≠ key) (elements : List Json)
    (rest : List (String × Json)) :
    Json.lookup key (sentFields keyword elements ++ rest) = Json.lookup key rest := by
  match elements with
  | [] => rfl
  | [element] => rw [sentFields, List.singleton_append, Json.lookup_cons_of_ne _ _ h]
  | _ :: _ :: _ => rw [sentFields, List.singleton_append, Json.lookup_cons_of_ne _ _ h]

/-- With four distinct keys this is an answer. -/
theorem answers_answer {keyword : String} {plural : Option String}
    (hkeys : [keyword, plural.getD (keyword ++ "s"), keyword ++ "_count", "filters"].Nodup)
    (elements : List Json) (q : Filter) (size : Int) (start : Nat) :
    Answers elements keyword plural q size start
      (answer elements keyword plural q size start) := by
  simp only [List.nodup_cons, List.mem_cons, List.not_mem_nil, or_false, not_or] at hkeys
  obtain ⟨⟨hplural, hcount, hfilters⟩, ⟨hpluralCount, hpluralFilters⟩, hcountFilters, -⟩ := hkeys
  have hentities : Json.lookup keyword (pageFields elements keyword plural q size start) =
      none := by
    rw [pageFields, Json.lookup_cons_of_ne _ _ (Ne.symm hplural),
      Json.lookup_cons_of_ne _ _ (Ne.symm hcount), Json.lookup_cons_of_ne _ _ (Ne.symm hfilters),
      Json.lookup_nil]
  have hcounts : Json.lookup (keyword ++ "_count")
      (pageFields elements keyword plural q size start) =
      some (.object [("page", .nat (slice elements size start).length),
        ("__text", .nat elements.length), ("filtered", .nat elements.length)]) := by
    rw [pageFields, Json.lookup_cons_of_ne _ _ hpluralCount, Json.lookup_cons_self]
  have hfilter : Json.lookup "filters" (pageFields elements keyword plural q size start) =
      some (.object [("term", .string q.print)]) := by
    rw [pageFields, Json.lookup_cons_of_ne _ _ hpluralFilters,
      Json.lookup_cons_of_ne _ _ hcountFilters, Json.lookup_cons_self]
  constructor
  · exact sent_lookup hentities _
  · have hlookup := lookup_sentFields_append hplural (slice elements size start)
    exact ⟨_, (hlookup _).trans (Json.lookup_cons_self _ _ _), by simp [Json.lookup]⟩
  · have hlookup := lookup_sentFields_append hcount (slice elements size start)
    exact ⟨.nat elements.length, _, (hlookup _).trans hcounts, by simp [Json.lookup]⟩
  · have hlookup := lookup_sentFields_append hfilters (slice elements size start)
    exact ⟨_, (hlookup _).trans hfilter, by simp [Json.lookup]⟩

theorem serves_serve {keyword : String} {plural : Option String}
    (hkeys : [keyword, plural.getD (keyword ++ "s"), keyword ++ "_count", "filters"].Nodup)
    (elements : List Json) : Serves elements keyword plural (serve elements keyword plural) := by
  intro n q size start hrows _ hfirst
  refine ⟨_, rfl, ?_⟩
  rw [hrows, hfirst]
  exact answers_answer hkeys elements q size start

/-! ## The walk -/

/-- What a client decodes from the answer to its `n`-th request. -/
def fetch (plural : Option String) (keyword : String) (decoder : Json → Except ε α)
    (respond : Nat → Filter → Json) (n : Nat) (q : Filter) : Except (DecodeError ε) (Page α) :=
  (decode (pluralLayout plural) keyword decoder (respond n q)).value

/-- A client's walk from its `n`-th request on: the pages it fetches until one has no next page. -/
inductive Walk (fetch : Nat → Filter → Except (DecodeError ε) (Page α)) :
    Nat → Filter → List (Page α) → Prop where
  | last {n : Nat} {q : Filter} {p : Page α} :
      fetch n q = .ok p → p.counts.hasNext = false → Walk fetch n q [p]
  | more {n : Nat} {q : Filter} {p : Page α} {pages : List (Page α)} :
      fetch n q = .ok p → p.counts.hasNext = true →
      Walk fetch (n + 1) p.filter.nextPage.value pages → Walk fetch n q (p :: pages)

theorem Walk.unique {fetch : Nat → Filter → Except (DecodeError ε) (Page α)} {n : Nat} {q : Filter}
    {pages pages' : List (Page α)} (h : Walk fetch n q pages) (h' : Walk fetch n q pages') :
    pages' = pages := by
  induction h generalizing pages' with
  | last hfetch hnext =>
    cases h' with
    | last hfetch' _ =>
      rw [hfetch] at hfetch'
      cases hfetch'
      rfl
    | more hfetch' hnext' _ =>
      rw [hfetch] at hfetch'
      cases hfetch'
      rw [hnext] at hnext'
      cases hnext'
  | more hfetch hnext _ ih =>
    cases h' with
    | last hfetch' hnext' =>
      rw [hfetch] at hfetch'
      cases hfetch'
      rw [hnext] at hnext'
      cases hnext'
    | more hfetch' _ hrest =>
      rw [hfetch] at hfetch'
      cases hfetch'
      rw [ih hrest]

theorem counts_slice (elements : List Json) {size : Int} {start : Nat} (all : Nat)
    (hpos : 1 ≤ size) (hstart : 1 ≤ start) :
    (⟨start, size, (slice elements size start).length, all, elements.length⟩ : Counts) =
      Counts.ofPage size.toNat start elements.length all := by
  have hsize : (size.toNat : Int) = size := Int.toNat_of_nonneg (by omega)
  have hrest : elements.length - (start - 1) = elements.length + 1 - start := by omega
  rw [Counts.ofPage, hsize, length_slice, hrest]

theorem slice_append_drop (elements : List Json) (size : Int) {start : Nat} (h : 1 ≤ start) :
    slice elements size start ++ elements.drop (start + size.toNat - 1) =
      elements.drop (start - 1) := by
  have hdrop : elements.drop (start + size.toNat - 1) =
      (elements.drop (start - 1)).drop size.toNat := by
    rw [List.drop_drop]
    congr 1
    omega
  rw [slice, hdrop, List.take_append_drop]

theorem slice_eq_drop {elements : List Json} {size : Int} {start : Nat} (h : 1 ≤ start)
    (hlast : ¬ start + size.toNat ≤ elements.length) :
    slice elements size start = elements.drop (start - 1) := by
  refine List.take_of_length_le ?_
  rw [List.length_drop]
  omega

section Walk

variable {elements : List Json} {keyword : String} {plural : Option String}
  {respond : Nat → Filter → Json} {decoder : Json → Except ε α} {d : Json → α} {size : Int}

/-- The page that a request is answered with. -/
theorem fetch_of_request (hserves : Serves elements keyword plural respond)
    (hlength : (elements.length : Int) ≤ Decimal.maxInt)
    (hobj : ∀ e ∈ elements, e.isObject = true) (hd : ∀ e ∈ elements, decoder e = .ok (d e))
    {q : Filter} {start : Nat} (hq : PageRequest q size start) (n : Nat) :
    ∃ all, fetch plural keyword decoder respond n q = .ok {
      entities := (slice elements size start).map d
      filter := ofString q.print
      counts := .ofPage size.toNat start elements.length all } := by
  obtain ⟨hstart, hplace⟩ := first_bounds hq.first
  obtain ⟨fields, hrespond, hanswers⟩ := hserves n q size start hq.rows hq.positive hq.first
  obtain ⟨all, hpage⟩ := value_decode_of_answers hanswers hd hobj hlength hplace hq.positive
    (rows_le_maxInt hq.rows)
  rw [counts_slice elements all hq.positive hstart] at hpage
  exact ⟨all, by rw [fetch, hrespond, hpage]⟩

/-- A request for a page starts a walk through the rest of the list. -/
theorem exists_walk_of_request (hserves : Serves elements keyword plural respond)
    (hlength : (elements.length : Int) ≤ Decimal.maxInt)
    (hobj : ∀ e ∈ elements, e.isObject = true) (hd : ∀ e ∈ elements, decoder e = .ok (d e))
    (remaining : Nat) {q : Filter} {start : Nat} (hq : PageRequest q size start)
    (hend : start ≤ max elements.length 1) (hremaining : elements.length - start = remaining)
    (n : Nat) :
    ∃ pages, Walk (fetch plural keyword decoder respond) n q pages ∧
      pages.flatMap (·.entities) = (elements.drop (start - 1)).map d ∧
      pages.length = (elements.length - start) / size.toNat + 1 := by
  induction remaining using Nat.strongRecOn generalizing q start n with
  | ind remaining ih =>
    have hstart := hq.start_pos
    have hpos := hq.positive
    have hsize : 0 < size.toNat := by omega
    obtain ⟨all, hpage⟩ := fetch_of_request hserves hlength hobj hd hq n
    have hnext : (Counts.ofPage size.toNat start elements.length all).hasNext = true ↔
        start + size.toNat ≤ elements.length := by
      rw [Counts.hasNext_ofPage hsize]
      omega
    by_cases hmore : start + size.toNat ≤ elements.length
    · have hnextPlace : ((start + size.toNat : Nat) : Int) ≤ Decimal.maxInt := by omega
      obtain ⟨pages, hwalk, hentities, hcount⟩ := ih (elements.length - (start + size.toNat))
        (by omega) (hq.next hnextPlace) (by omega) rfl (n + 1)
      refine ⟨_, .more hpage (hnext.2 hmore) hwalk, ?_, ?_⟩
      · rw [List.flatMap_cons, hentities, ← List.map_append, slice_append_drop elements size hstart]
      · have hsplit : elements.length - start =
            elements.length - (start + size.toNat) + size.toNat := by omega
        rw [List.length_cons, hcount, hsplit, Nat.add_div_right _ hsize]
    · refine ⟨_, .last hpage (Bool.eq_false_iff.2 fun h => hmore (hnext.1 h)), ?_, ?_⟩
      · rw [List.flatMap_cons, List.flatMap_nil, List.append_nil, slice_eq_drop hstart hmore]
      · rw [Nat.div_eq_of_lt (by omega)]
        rfl

/-- A walk from a place behind the end of a list that is not empty goes on for as many pages as
there are places to ask for: each page is empty and says that there is a next one. -/
theorem length_walk_of_behind_end (hserves : Serves elements keyword plural respond)
    (hlength : (elements.length : Int) ≤ Decimal.maxInt)
    (hobj : ∀ e ∈ elements, e.isObject = true) (hd : ∀ e ∈ elements, decoder e = .ok (d e))
    (hsome : 0 < elements.length) {k : Nat} {q : Filter} {start : Nat}
    (hq : PageRequest q size start) (hend : elements.length < start)
    (hplace : ((start + k * size.toNat : Nat) : Int) ≤ Decimal.maxInt) {n : Nat}
    {pages : List (Page α)} (hwalk : Walk (fetch plural keyword decoder respond) n q pages) :
    k < pages.length := by
  induction k generalizing q start n pages with
  | zero =>
    cases hwalk with
    | last _ _ => exact Nat.succ_pos _
    | more _ _ _ => exact Nat.succ_pos _
  | succ k ih =>
    have hpos := hq.positive
    rw [Nat.succ_mul] at hplace
    obtain ⟨all, hpage⟩ := fetch_of_request hserves hlength hobj hd hq n
    have hnext : (Counts.ofPage size.toNat start elements.length all).hasNext = true :=
      (Counts.hasNext_ofPage (by omega)).2 (.inr ⟨hsome, hend⟩)
    cases hwalk with
    | last hfetch hlast =>
      cases hpage.symm.trans hfetch
      exact absurd (hnext.symm.trans hlast) (by decide)
    | more hfetch _ hrest =>
      cases hpage.symm.trans hfetch
      have hrequest := hq.next (by omega)
      exact Nat.succ_lt_succ (ih hrequest (by omega) (by omega) hrest)

end Walk

/-- From any start within the list the walk ends, and its pages hold the entities of all elements
from there on, each once and in order. -/
theorem exists_walk {elements : List Json} {keyword : String} {plural : Option String}
    {respond : Nat → Filter → Json} (hserves : Serves elements keyword plural respond)
    (hlength : elements.length ≤ 2 ^ 63 - 1) (hobj : ∀ e ∈ elements, e.isObject = true)
    {decoder : Json → Except ε α} {d : Json → α} (hd : ∀ e ∈ elements, decoder e = .ok (d e))
    {q : Filter} (hq : Reachable q) (hplain : ∀ t ∈ q.terms, t.Plain) {size : Int} {start : Nat}
    (hrows : q.rows.value = some size) (hpos : 1 ≤ size) (hfirst : q.first.value = some start)
    (hend : start ≤ max elements.length 1) :
    ∃ pages, Walk (fetch plural keyword decoder respond) 0 q pages ∧
      (∀ pages', Walk (fetch plural keyword decoder respond) 0 q pages' → pages' = pages) ∧
      pages.flatMap (·.entities) = (elements.drop (start - 1)).map d ∧
      pages.length = (elements.length - start) / size.toNat + 1 := by
  have hrequest : PageRequest q size start := ⟨hq.wellFormed, hplain, hrows, hpos, hfirst⟩
  have hbound : (elements.length : Int) ≤ Decimal.maxInt := by
    unfold Decimal.maxInt
    omega
  obtain ⟨pages, hwalk, hentities, hcount⟩ :=
    exists_walk_of_request hserves hbound hobj hd _ hrequest hend rfl 0
  exact ⟨pages, hwalk, fun _ h => hwalk.unique h, hentities, hcount⟩

theorem exists_walk_from_second :
    ∃ pages : List (Page Int),
      Walk (fetch none "task" (fun e => (Element.number? e).elim (.error "not a number") .ok)
          (serve ([1, 2, 3, 4].map fun n => .object [("__text", .int n)]) "task" none))
        0 (ofString "rows=2 first=2 name<\"= x\"") pages ∧
      pages.flatMap (·.entities) = [2, 3, 4] ∧ pages.length = 2 := by
  let elements : List Json := [1, 2, 3, 4].map fun n => .object [("__text", .int n)]
  let decoder (e : Json) : Except String Int :=
    (Element.number? e).elim (.error "not a number") .ok
  let d (e : Json) : Int := (Element.number? e).getD 0
  have hobj : ∀ e ∈ elements, e.isObject = true := by
    intro e he
    obtain ⟨n, -, rfl⟩ := List.mem_map.1 he
    rfl
  have hd : ∀ e ∈ elements, decoder e = .ok (d e) := by
    intro e he
    obtain ⟨n, -, rfl⟩ := List.mem_map.1 he
    rfl
  let q := ofString "rows=2 first=2 name<\"= x\""
  have hserves : Serves elements "task" none (serve elements "task" none) :=
    serves_serve (by decide) elements
  have hplain : ∀ t ∈ q.terms, t.Plain := by decide +kernel
  have hrows : q.rows.value = some 2 := by decide +kernel
  have hfirst : q.first.value = some 2 := by decide +kernel
  obtain ⟨pages, hwalk, -, hentities, hcount⟩ := exists_walk hserves (by decide) hobj hd
    (.ofString _) hplain hrows (by decide) hfirst (by decide)
  exact ⟨pages, hwalk, hentities, hcount.trans (by decide)⟩

end ListView.Page
