import ListView.Proofs.Filter.Insert
import ListView.Proofs.Filter.Paging

/-!
# The predicates of a filter

The terms that are left when paging and sorting are dropped, in their order
(`terms_simple`). Turning pages, sorting and asking for the whole list put in
terms of paging and sorting only, and these remove no others
(`predicates_insert`). So no run of such changes touches a predicate
(`terms_simple_foldl_apply`).
-/

namespace ListView

/-- The keywords that say which part of a list is shown, and in which order. -/
def Keyword.view : List String := [first, rows, sort, sortReverse]

namespace Filter

/-- The terms that say what a list contains. -/
def predicates (f : Filter) : List Term := f.terms.filter fun t => t.keyword ∉ Keyword.view

theorem mem_predicates {f : Filter} {t : Term} :
    t ∈ f.predicates ↔ t ∈ f.terms ∧ t.keyword ∉ Keyword.view := by
  rw [predicates, List.mem_filter, decide_eq_true_eq]

/-- Of the keywords to delete neither the order matters nor how often they come. -/
theorem foldl_delete (keywords : List String) (f : Filter) :
    keywords.foldl delete f =
      ⟨f.terms.filter fun t => t.keyword ∉ keywords.map Term.normalizeKeyword⟩ := by
  induction keywords generalizing f with
  | nil => simp
  | cons k rest ih =>
    rw [List.foldl_cons, ih, delete, List.filter_filter]
    refine congrArg Filter.mk (List.filter_congr fun t _ => ?_)
    rw [← Bool.decide_and]
    refine decide_eq_decide.2 ?_
    rw [List.map_cons, List.mem_cons, not_or, and_comm]

theorem normal_view : ∀ k ∈ Keyword.view, Term.NormalKeyword k := by
  simp only [Keyword.view, List.forall_mem_cons]
  exact ⟨normal_first, normal_rows, normal_sort, normal_sortReverse, fun _ h => nomatch h⟩

/-- Dropping paging and sorting leaves the predicates. -/
theorem terms_simple (f : Filter) : f.simple.terms = f.predicates := by
  have hsimple : f.simple = Keyword.view.foldl delete f := rfl
  have hview : Keyword.view.map Term.normalizeKeyword = Keyword.view :=
    (List.map_congr_left fun k hk => (normal_view k hk).2).trans (List.map_id' _)
  rw [hsimple, foldl_delete, hview, predicates]

theorem predicates_simple (f : Filter) : f.simple.predicates = f.predicates := by
  rw [predicates, terms_simple, List.filter_eq_self]
  exact fun t ht => decide_eq_true (mem_predicates.1 ht).2

/-! ## Changes of the view -/

theorem rival?_mem_view {k l : String} (h : Keyword.rival? k = some l) : l ∈ Keyword.view := by
  rcases rival?_eq_some h with ⟨-, rfl⟩ | ⟨-, rfl⟩ <;> decide

/-- A term of paging or sorting comes in without touching a predicate: its rival is none. -/
theorem predicates_insert {t : Term} (h : t.keyword ∈ Keyword.view) (f : Filter) :
    (f.insert t).predicates = f.predicates := by
  have hself : ∀ u : Term, u.keyword = t.keyword → decide (u.keyword ∉ Keyword.view) = false :=
    fun u hu => decide_eq_false fun hnot => hnot (hu ▸ h)
  rw [predicates, filter_insert_of_false hself, withoutRival_of_not_mem, predicates]
  intro u hu hrival
  exact (mem_predicates.1 hu).2 (rival?_mem_view hrival)

theorem predicates_set {k : String} (h : k ∈ Keyword.view) (f : Filter) (v : String) :
    (f.set k v).predicates = f.predicates := by
  rw [set_of_normal (normal_view k h), predicates_insert h]

theorem predicates_withFirst (f : Filter) (n : Nat) :
    (f.withFirst n).predicates = f.predicates :=
  predicates_set (k := Keyword.first) (by decide) f _

theorem predicates_movePage (f : Filter) (move : Nat → Nat → Nat) :
    (f.movePage move).value.predicates = f.predicates := by
  by_cases h : ∃ size, f.rows.value = some size ∧ 0 < size
  · obtain ⟨size, hrows, hsize⟩ := h
    rw [value_movePage hrows hsize, predicates_withFirst]
  · rw [value_movePage_of_not_positive fun size hrows => Int.not_lt.1 fun hsize =>
      h ⟨size, hrows, hsize⟩]

/-- A change of which part of a list is shown, or in which order. -/
inductive ViewChange where
  | firstPage
  | nextPage
  | previousPage
  | withRows (n : Int)
  | sort (field : String) (order : SortOrder)
  | all

def ViewChange.apply (f : Filter) : ViewChange → Filter
  | firstPage => f.firstPage
  | nextPage => f.nextPage.value
  | previousPage => f.previousPage.value
  | withRows n => f.withRows n
  | sort field order => f.sort field order
  | all => f.all

theorem predicates_apply (f : Filter) (change : ViewChange) :
    (change.apply f).predicates = f.predicates := by
  cases change with
  | firstPage => exact predicates_withFirst f 1
  | nextPage => exact predicates_movePage f _
  | previousPage => exact predicates_movePage f _
  | withRows n => exact predicates_set (k := Keyword.rows) (by decide) f _
  | sort field order =>
    have hview : order.keyword ∈ Keyword.view := by cases order <;> decide
    exact predicates_set hview f field
  | all =>
    rw [ViewChange.apply, Filter.all, predicates_set (by decide), predicates_set (by decide)]

theorem predicates_foldl_apply (changes : List ViewChange) (f : Filter) :
    (changes.foldl ViewChange.apply f).predicates = f.predicates := by
  induction changes generalizing f with
  | nil => rfl
  | cons change rest ih => rw [List.foldl_cons, ih, predicates_apply]

/-- Whatever run of changes comes before, dropping paging and sorting leaves the same terms: those
of other keywords, in their order. -/
theorem terms_simple_foldl_apply (f : Filter) (changes : List ViewChange) :
    (changes.foldl ViewChange.apply f).simple.terms = f.simple.terms ∧
      f.simple.terms = f.terms.filter (fun t => t.keyword ∉ Keyword.view) ∧
      (∀ t ∈ f.simple.terms, t.keyword ∉ Keyword.view) ∧
      f.simple.simple.terms = f.simple.terms := by
  refine ⟨?_, terms_simple f, ?_, ?_⟩
  · rw [terms_simple, predicates_foldl_apply, terms_simple]
  · intro t ht
    rw [terms_simple] at ht
    exact (mem_predicates.1 ht).2
  · rw [terms_simple, predicates_simple, terms_simple]

/-- A sort that is turned around, a page size that is replaced and a start that is added, among
predicates. -/
theorem terms_simple_foldl_apply_turned :
    let f := ofString "NAME~\"a b\" sort=name size>=7 rows=5 Id<9"
    let g := [.nextPage, .sort "size" .descending, .withRows 3, .previousPage, .nextPage].foldl
      ViewChange.apply f
    g.terms = [⟨"name", .approx, "a b"⟩, ⟨"size", .greaterOrEqual, "7"⟩, ⟨"rows", .equal, "3"⟩,
        ⟨"id", .less, "9"⟩, ⟨"first", .equal, "6"⟩, ⟨"sort-reverse", .equal, "size"⟩] ∧
      g.simple.terms = f.simple.terms ∧
      f.simple.terms =
        [⟨"name", .approx, "a b"⟩, ⟨"size", .greaterOrEqual, "7"⟩, ⟨"id", .less, "9"⟩] ∧
      ⟨"id", .less, "9"⟩ ∈ f.simple.terms ∧ "id" ∉ Keyword.view ∧
      f.simple.simple.terms = f.simple.terms := by
  intro f g
  obtain ⟨hchanged, hterms, hnone, hagain⟩ := terms_simple_foldl_apply f
    [.nextPage, .sort "size" .descending, .withRows 3, .previousPage, .nextPage]
  have hid : ⟨"id", .less, "9"⟩ ∈ f.simple.terms := by
    rw [hterms]
    decide +kernel
  refine ⟨by decide +kernel, hchanged, ?_, hid, hnone _ hid, hagain⟩
  rw [hterms]
  decide +kernel

end Filter

end ListView
