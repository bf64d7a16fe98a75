import ListView.Filter.Edit
import ListView.Proofs.Filter.WellFormed

/-!
# Reachable filters

`Reachable` is every filter that comes of building one, reading one, and any run
of the operations. All of them are well formed: each operation keeps that
(`Reachable.wellFormed`).
-/

namespace ListView.Filter

open Text Token

namespace WellFormed

variable {f g : Filter}

/-! ## Operations -/

theorem setWith (hf : f.WellFormed) (keyword : String) (r : Relation) (value : String) :
    (f.setWith keyword r value).WellFormed := by
  unfold Filter.setWith
  split
  · rename_i t ht
    exact hf.insert (Term.normal_of_make? ht)
  · exact hf

theorem set (hf : f.WellFormed) (keyword value : String) : (f.set keyword value).WellFormed :=
  hf.setWith keyword .equal value

theorem delete (hf : f.WellFormed) (keyword : String) : (f.delete keyword).WellFormed :=
  hf.of_sublist List.filter_sublist

theorem foldl_delete (hf : f.WellFormed) (keywords : List String) :
    (keywords.foldl Filter.delete f).WellFormed := by
  induction keywords generalizing f with
  | nil => exact hf
  | cons k rest ih => exact ih (hf.delete k)

theorem and (hf : f.WellFormed) (hg : g.WellFormed) : (f.and g).WellFormed :=
  hf.foldl_insert fun _ ht => hg.normal_of_mem ht

theorem all (hf : f.WellFormed) : f.all.WellFormed := (hf.set _ _).set _ _

theorem sort (hf : f.WellFormed) (field : String) (order : SortOrder) :
    (f.sort field order).WellFormed := hf.set _ _

theorem setLevels (hf : f.WellFormed) (levels : List Severity) :
    (f.setLevels levels).WellFormed := by
  unfold Filter.setLevels
  split
  · exact hf.delete _
  · exact hf.set _ _

theorem withRows (hf : f.WellFormed) (n : Int) : (f.withRows n).WellFormed := hf.set _ _

theorem withFirst (hf : f.WellFormed) (n : Nat) : (f.withFirst n).WellFormed := hf.set _ _

theorem movePage (hf : f.WellFormed) (move : Nat → Nat → Nat) :
    (f.movePage move).value.WellFormed := by
  rw [Filter.movePage, Logged.value_bind]
  split
  · split
    · rw [Logged.value_bind]
      exact hf.withFirst _
    · exact hf
  · exact hf

theorem simple (hf : f.WellFormed) : f.simple.WellFormed :=
  (((hf.delete _).delete _).delete _).delete _

theorem complete (hf : f.WellFormed) (other : Filter) (keyword : String) :
    (Filter.complete other f keyword).WellFormed := by
  unfold Filter.complete
  split
  · exact hf
  · split
    · exact hf
    · split
      · exact hf.setWith _ _ _
      · exact hf

theorem mergePresentation (hf : f.WellFormed) (other : Filter) :
    (f.mergePresentation other).WellFormed := by
  unfold Filter.mergePresentation
  generalize Keyword.presentation = keywords
  induction keywords generalizing f with
  | nil => exact hf
  | cons k rest ih => exact ih (hf.complete other k)

/-! ## Edits of a text -/

theorem setTerm (hf : f.WellFormed) {text : String} (h : Edit.setTerm f text = .ok g) :
    g.WellFormed := by
  unfold Edit.setTerm at h
  split at h
  · cases h
    split
    · exact hf
    · exact hf.setWith _ _ _
  · cases h

theorem foldlM_setTerm (hf : f.WellFormed) {texts : List String}
    (h : texts.foldlM Edit.setTerm f = .ok g) : g.WellFormed := by
  induction texts generalizing f with
  | nil =>
    cases h
    exact hf
  | cons text rest ih =>
    rw [List.foldlM_cons] at h
    cases hset : Edit.setTerm f text with
    | error e =>
      rw [hset] at h
      cases h
    | ok f' =>
      rw [hset] at h
      exact ih (hf.setTerm hset) h

theorem foldlM_addFilter (hf : f.WellFormed) (texts : List String) :
    (texts.foldlM Edit.addFilter f).value.WellFormed := by
  induction texts generalizing f with
  | nil => exact hf
  | cons text rest ih =>
    rw [List.foldlM_cons, Logged.value_bind]
    exact ih (hf.and (ofString text))

theorem applyIf (hf : f.WellFormed) (flag : Bool) (change : Filter → Logged Filter)
    (h : ∀ {f : Filter}, f.WellFormed → (change f).value.WellFormed) :
    (Edit.applyIf flag change f).value.WellFormed := by
  cases flag
  · exact hf
  · exact h hf

theorem finish (hf : f.WellFormed) (e : Edit) : (e.finish f).value.WellFormed := by
  have hadd := hf.foldlM_addFilter e.and
  have hnext := hadd.applyIf e.nextPage Filter.nextPage fun h => h.movePage _
  have hprev := hnext.applyIf e.previousPage Filter.previousPage fun h => h.movePage _
  simp only [Edit.finish, Logged.value_bind, Logged.value_pure]
  split <;> split
  · exact hprev.simple.all
  · exact hprev.all
  · exact hprev.simple
  · exact hprev

theorem edit {e : Edit} (h : e.run.value = .ok f) : f.WellFormed := by
  rw [Edit.run, Logged.value_bind] at h
  split at h
  · rename_i g hset
    have hg := ((ofString e.filter).foldl_delete e.delete).foldlM_setTerm hset
    cases h
    exact hg.finish e
  · cases h

end WellFormed

/-! ## Runs of operations -/

/-- The filters that come of any run of operations. -/
inductive Reachable : Filter → Prop where
  | empty : Reachable ∅
  | ofTerm {keyword value : List Char} {r : Relation} {t : Term} :
      Term.make? keyword r value = some t → Reachable (ofTerm t)
  | ofToken {token : List Char} {t : Term} : Term.parse? token = some t → Reachable (ofTerm t)
  | ofString (text : String) : Reachable (ofString text)
  | set {f : Filter} (keyword value : String) : Reachable f → Reachable (f.set keyword value)
  | setWith {f : Filter} (keyword : String) (r : Relation) (value : String) :
      Reachable f → Reachable (f.setWith keyword r value)
  | delete {f : Filter} (keyword : String) : Reachable f → Reachable (f.delete keyword)
  | and {f g : Filter} : Reachable f → Reachable g → Reachable (f.and g)
  | all {f : Filter} : Reachable f → Reachable f.all
  | sort {f : Filter} (field : String) (order : SortOrder) :
      Reachable f → Reachable (f.sort field order)
  | setLevels {f : Filter} (levels : List Severity) : Reachable f → Reachable (f.setLevels levels)
  | firstPage {f : Filter} : Reachable f → Reachable f.firstPage
  | nextPage {f : Filter} : Reachable f → Reachable f.nextPage.value
  | previousPage {f : Filter} : Reachable f → Reachable f.previousPage.value
  | withRows {f : Filter} (n : Int) : Reachable f → Reachable (f.withRows n)
  | simple {f : Filter} : Reachable f → Reachable f.simple
  | mergePresentation {f g : Filter} :
      Reachable f → Reachable g → Reachable (f.mergePresentation g)
  | reread {f : Filter} : Reachable f → Reachable (Filter.ofString f.print)
  | edit {e : Edit} {f : Filter} : e.run.value = .ok f → Reachable f

theorem Reachable.wellFormed {f : Filter} (h : Reachable f) : f.WellFormed := by
  induction h with
  | empty => exact .empty
  | ofTerm ht => exact .ofTerm (Term.normal_of_make? ht)
  | ofToken ht => exact .ofTerm (Term.normal_of_parse? ht)
  | ofString text => exact .ofString text
  | set k v _ ih => exact ih.set k v
  | setWith k r v _ ih => exact ih.setWith k r v
  | delete k _ ih => exact ih.delete k
  | and _ _ ihf ihg => exact ihf.and ihg
  | all _ ih => exact ih.all
  | sort field order _ ih => exact ih.sort field order
  | setLevels levels _ ih => exact ih.setLevels levels
  | firstPage _ ih => exact ih.withFirst 1
  | nextPage _ ih => exact ih.movePage _
  | previousPage _ ih => exact ih.movePage _
  | withRows n _ ih => exact ih.withRows n
  | simple _ ih => exact ih.simple
  | mergePresentation _ _ ihf _ => exact ihf.mergePresentation _
  | reread _ _ => exact .ofString _
  | edit he => exact .edit he

/-- Every filter of every run has distinct keywords in normal form and at most one direction of a
sort; a filter that was read has no operator in a keyword. -/
theorem reachable_keywords_distinct_normal :
    (∀ f, Reachable f →
      (f.terms.map (·.keyword)).Nodup ∧
      ¬ (Keyword.sort ∈ f.terms.map (·.keyword) ∧
        Keyword.sortReverse ∈ f.terms.map (·.keyword)) ∧
      ∀ t ∈ f.terms, t.keyword ≠ "" ∧ Term.normalizeKeyword t.keyword = t.keyword) ∧
    ∀ text, ∀ t ∈ (Filter.ofString text).terms, ∀ c ∈ t.keyword.toList,
      c ∉ ['=', '~', '<', '>'] := by
  constructor
  · intro f hf
    have hwf := hf.wellFormed
    exact ⟨hwf.distinct, hwf.oneSort, fun t ht => hwf.normal_of_mem ht⟩
  · intro text t ht c hc hop
    obtain ⟨token, -, hparse⟩ := exists_token_of_mem_ofString ht
    have hfree := Term.operatorFree_of_parse? hparse c hc
    simp only [List.mem_cons, List.not_mem_nil, or_false] at hop
    rcases hop with rfl | rfl | rfl | rfl <;> exact absurd hfree (by decide)

theorem reachable_keywords_distinct_normal_merged :
    ∃ f, Reachable f ∧
      f.terms.map (·.keyword) = ["\"a b\"", "sort", "i̇ς", "rows"] ∧
      (f.terms.map (·.keyword)).Nodup ∧
      ∀ t ∈ f.terms, t.keyword ≠ "" ∧ Term.normalizeKeyword t.keyword = t.keyword := by
  let f := ((Filter.ofString "\"A B\"=x sort-reverse=id Sort=name").setWith " İΣ " .less "=7")
    |>.mergePresentation (Filter.ofString "sort-reverse=date rows=5")
  have hf : Reachable f := ((Reachable.ofString _).setWith _ _ _).mergePresentation (.ofString _)
  obtain ⟨hdistinct, -, hnormal⟩ := reachable_keywords_distinct_normal.1 f hf
  exact ⟨f, hf, by decide +kernel, hdistinct, hnormal⟩

end ListView.Filter
