import ListView.Filter.Value
import ListView.Proofs.Filter.Paging
import ListView.Proofs.Filter.Reachable

/-!
# Equal filters

Filters are alike when they have the same term for every keyword. For
well-formed filters this is what equality means (`beq_iff_alike`), and what a
hash is made from tells no more (`sortedTerms_eq_iff`). Whatever is asked of a
filter is answered from its terms by keyword, and so is every edit, so that
equal filters cannot be told apart (`beq_congr_of_reachable`).
-/

namespace ListView.Filter

/-- The same term for every keyword, in whatever order. -/
def Alike (f g : Filter) : Prop := ∀ k, f.find? k = g.find? k

variable {f g h h' : Filter}

theorem alike_iff_perm (hf : f.WellFormed) (hg : g.WellFormed) :
    f.Alike g ↔ f.terms.Perm g.terms := by
  constructor
  · intro halike
    refine (List.perm_ext_iff_of_nodup hf.nodup hg.nodup).2 fun t => ?_
    have hmem : ∀ {e : Filter}, e.WellFormed → (t ∈ e.terms ↔ e.find? t.keyword = some t) :=
      fun he => by rw [he.find?_eq_some_iff, and_iff_left rfl]
    rw [hmem hf, hmem hg, halike]
  · intro hperm k
    exact find?_eq_of_perm hg hperm k

theorem beq_iff_alike (hf : f.WellFormed) (hg : g.WellFormed) : (f == g) = true ↔ f.Alike g := by
  rw [beq_iff_perm hf, alike_iff_perm hf hg]

/-- A filter of plain terms is read back from its print, up to order. -/
theorem alike_ofString_print (hf : f.WellFormed) (hp : ∀ t ∈ f.terms, t.Plain) :
    (ofString f.print).Alike f := by
  rw [ofString_print_of_printable hf fun t ht => (hp t ht).printable]
  exact find?_eq_of_perm hf (perm_printOrder hf)

/-! ## What a hash is made from -/

theorem sortedTerms_perm (f : Filter) : f.sortedTerms.Perm f.terms := List.mergeSort_perm _ _

theorem pairwise_sortedTerms (f : Filter) :
    f.sortedTerms.Pairwise fun a b => decide (a.keyword ≤ b.keyword) = true := by
  refine List.pairwise_mergeSort (fun a b c hab hbc => ?_) (fun a b => ?_) f.terms
  · exact decide_eq_true (String.le_trans (of_decide_eq_true hab) (of_decide_eq_true hbc))
  · simpa using String.le_total a.keyword b.keyword

theorem sortedTerms_eq_iff (hf : f.WellFormed) :
    f.sortedTerms = g.sortedTerms ↔ f.terms.Perm g.terms := by
  constructor
  · intro heq
    have hperm := g.sortedTerms_perm
    rw [← heq] at hperm
    exact f.sortedTerms_perm.symm.trans hperm
  · intro hperm
    have hsorted : f.sortedTerms.Perm g.sortedTerms :=
      f.sortedTerms_perm.trans (hperm.trans g.sortedTerms_perm.symm)
    refine List.Perm.eq_of_pairwise (fun a b ha hb hab hba => ?_) f.pairwise_sortedTerms
      g.pairwise_sortedTerms hsorted
    -- terms that sort alike have one keyword, of which there is one term only
    have hkey := String.le_antisymm (of_decide_eq_true hab) (of_decide_eq_true hba)
    have hmem : ∀ {t : Term}, t ∈ f.sortedTerms → t ∈ f.terms := f.sortedTerms_perm.mem_iff.1
    exact hf.eq_of_keyword_eq (hmem ha) (hmem (hsorted.mem_iff.2 hb)) hkey

/-! ## Answers -/

theorem Alike.term? (H : f.Alike g) (k : String) : f.term? k = g.term? k := H _

theorem Alike.get? (H : f.Alike g) (k : String) : f.get? k = g.get? k := by
  rw [Filter.get?, Filter.get?, H.term?]

theorem Alike.has (H : f.Alike g) (k : String) : f.has k = g.has k := by
  rw [Filter.has, Filter.has, H.term?]

theorem Alike.whole (H : f.Alike g) (k : String) : f.whole k = g.whole k := by
  rw [Filter.whole, Filter.whole, H.get?]

theorem Alike.rows (H : f.Alike g) : f.rows = g.rows := H.whole Keyword.rows

theorem Alike.first (H : f.Alike g) : f.first = g.first := by
  rw [Filter.first, Filter.first, H.whole]

theorem Alike.sortBy? (H : f.Alike g) : f.sortBy? = g.sortBy? := by
  rw [Filter.sortBy?, Filter.sortBy?, H.get?, H.get?]

theorem Alike.sortOrder (H : f.Alike g) : f.sortOrder = g.sortOrder := by
  rw [Filter.sortOrder, Filter.sortOrder, H.has, H.has]

theorem Alike.levels (H : f.Alike g) : f.levels = g.levels := by
  rw [Filter.levels, Filter.levels, H.get?]

/-- The same answer to every question about a filter. -/
structure SameAnswers (f g : Filter) : Prop where
  get : ∀ k, f.get? k = g.get? k
  term : ∀ k, f.term? k = g.term? k
  has : ∀ k, f.has k = g.has k
  value : ∀ k, f.valueOf? k = g.valueOf? k
  hasTerm : ∀ t, f.hasTerm t = g.hasTerm t
  rows : f.rows = g.rows
  first : f.first = g.first
  sortBy : f.sortBy? = g.sortBy?
  sortOrder : f.sortOrder = g.sortOrder
  applyOverrides : f.applyOverrides = g.applyOverrides
  levels : f.levels = g.levels
  size : f.size = g.size

theorem Alike.sameAnswers (H : f.Alike g) (hperm : f.terms.Perm g.terms) : SameAnswers f g where
  get := H.get?
  term := H.term?
  has := H.has
  value k := by rw [valueOf?, valueOf?, H.get?]
  hasTerm t := by
    rw [Filter.hasTerm, Filter.hasTerm, Bool.eq_iff_iff]
    simpa using hperm.mem_iff
  rows := H.rows
  first := H.first
  sortBy := H.sortBy?
  sortOrder := H.sortOrder
  applyOverrides := by rw [Filter.applyOverrides, Filter.applyOverrides, H.get?]
  levels := H.levels
  size := hperm.length_eq

/-! ## Edits -/

theorem Alike.insert (H : f.Alike g) (t : Term) : (f.insert t).Alike (g.insert t) := by
  intro k
  rw [find?_insert, find?_insert, H]

theorem Alike.setWith (H : f.Alike g) (keyword : String) (r : Relation) (value : String) :
    (f.setWith keyword r value).Alike (g.setWith keyword r value) := by
  unfold Filter.setWith
  split
  · exact H.insert _
  · exact H

theorem Alike.set (H : f.Alike g) (keyword value : String) :
    (f.set keyword value).Alike (g.set keyword value) := H.setWith keyword .equal value

theorem find?_delete (f : Filter) (keyword k : String) :
    (f.delete keyword).find? k =
      if Term.normalizeKeyword keyword = k then none else f.find? k := by
  show (f.terms.filter (·.keyword ≠ Term.normalizeKeyword keyword)).find? _ = _
  rw [List.find?_filter]
  split
  · rename_i hk
    refine List.find?_eq_none.2 fun t _ => ?_
    simp [hk]
  · rename_i hk
    refine congrArg f.terms.find? (funext fun t => ?_)
    by_cases ht : t.keyword = k
    · simp [ht, Ne.symm hk]
    · simp [ht]

theorem Alike.delete (H : f.Alike g) (keyword : String) :
    (f.delete keyword).Alike (g.delete keyword) := by
  intro k
  rw [find?_delete, find?_delete, H]

theorem find?_cons (t : Term) (rest : List Term) (k : String) :
    (⟨t :: rest⟩ : Filter).find? k =
      if t.keyword = k then some t else (⟨rest⟩ : Filter).find? k := by
  by_cases ht : t.keyword = k <;> simp [find?, ht]

section Cons

variable {t : Term} {rest : List Term} (ht : WellFormed ⟨t :: rest⟩)

include ht

theorem WellFormed.tail : WellFormed ⟨rest⟩ := ht.of_sublist (List.sublist_cons_self t rest)

/-- Neither the keyword of the first term nor its rival comes again. -/
theorem WellFormed.find?_tail_eq_none {k : String}
    (hk : t.keyword = k ∨ Keyword.rival? t.keyword = some k) :
    (⟨rest⟩ : Filter).find? k = none := by
  cases hfind : (⟨rest⟩ : Filter).find? k with
  | none => rfl
  | some u =>
    obtain ⟨hu, rfl⟩ := ht.tail.find?_eq_some_iff.1 hfind
    rcases hk with hk | hk
    · have hdistinct := ht.distinct
      rw [keywords, List.map_cons, List.nodup_cons] at hdistinct
      exact absurd (List.mem_map.2 ⟨u, hu, hk.symm⟩) hdistinct.1
    · exact absurd hk (ht.rival_not_mem List.mem_cons_self (List.mem_cons_of_mem t hu))

end Cons

/-- The terms of the other filter, and of this one those that it neither replaces nor rivals. -/
theorem find?_and (f : Filter) (hh : h.WellFormed) (k : String) :
    (f.and h).find? k = (h.find? k).or
      (if ((Keyword.rival? k).bind h.find?).isSome then none else f.find? k) := by
  obtain ⟨terms⟩ := h
  show (terms.foldl Filter.insert f).find? k = _
  induction terms generalizing f with
  | nil => cases Keyword.rival? k <;> rfl
  | cons t rest ih =>
    rw [List.foldl_cons, ih _ hh.tail, find?_insert, find?_cons]
    by_cases ht : t.keyword = k
    · have hnone := hh.find?_tail_eq_none (.inl ht)
      have hrival : (Keyword.rival? k).bind (⟨rest⟩ : Filter).find? = none :=
        Option.bind_eq_none_iff.2 fun rival hk => hh.find?_tail_eq_none (.inr (ht ▸ hk))
      simp [hnone, hrival, ht]
    · rw [if_neg ht, if_neg ht]
      by_cases hrival : Keyword.rival? t.keyword = some k
      · have hbind : (Keyword.rival? k).bind (⟨t :: rest⟩ : Filter).find? = some t := by
          rw [rival?_comm.1 hrival, Option.bind_some, find?_cons, if_pos rfl]
        simp [hrival, hbind]
      · have hbind : (Keyword.rival? k).bind (⟨t :: rest⟩ : Filter).find? =
            (Keyword.rival? k).bind (⟨rest⟩ : Filter).find? := by
          cases hk : Keyword.rival? k with
          | none => rfl
          | some rival =>
            have hne : t.keyword ≠ rival := by
              rintro rfl
              exact hrival (rival?_comm.1 hk)
            rw [Option.bind_some, Option.bind_some, find?_cons, if_neg hne]
        rw [if_neg hrival, hbind]

theorem Alike.and (H : f.Alike g) (hh : h.WellFormed) (hh' : h'.WellFormed) (H' : h.Alike h') :
    (f.and h).Alike (g.and h') := by
  intro k
  have hfind : h.find? = h'.find? := funext H'
  rw [find?_and f hh, find?_and g hh', H, hfind]

theorem Alike.all (H : f.Alike g) : f.all.Alike g.all := (H.set _ _).set _ _

theorem Alike.setLevels (H : f.Alike g) (levels : List Severity) :
    (f.setLevels levels).Alike (g.setLevels levels) := by
  unfold Filter.setLevels
  split
  · exact H.delete _
  · exact H.set _ _

theorem Alike.withFirst (H : f.Alike g) (n : Nat) : (f.withFirst n).Alike (g.withFirst n) :=
  H.set _ _

theorem Alike.movePage (H : f.Alike g) (move : Nat → Nat → Nat) :
    (f.movePage move).value.Alike (g.movePage move).value := by
  rw [Filter.movePage, Filter.movePage, Logged.value_bind, Logged.value_bind, H.rows]
  split
  · split
    · rw [Logged.value_bind, Logged.value_bind, H.first]
      exact H.withFirst _
    · exact H
  · exact H

theorem Alike.simple (H : f.Alike g) : f.simple.Alike g.simple :=
  (((H.delete _).delete _).delete _).delete _

theorem Alike.complete (H : f.Alike g) (H' : h.Alike h') (keyword : String) :
    (Filter.complete h f keyword).Alike (Filter.complete h' g keyword) := by
  rw [Filter.complete, Filter.complete, H.has, H.sortBy?, H'.term?]
  split
  · exact H
  · split
    · exact H
    · split
      · exact H.setWith _ _ _
      · exact H

theorem Alike.mergePresentation (H : f.Alike g) (H' : h.Alike h') :
    (f.mergePresentation h).Alike (g.mergePresentation h') := by
  unfold Filter.mergePresentation
  generalize Keyword.presentation = keywords
  induction keywords generalizing f g with
  | nil => exact H
  | cons k rest ih => exact ih (H.complete H' k)

/-- Every edit makes equal filters of the two; `h` and `h'` are what another filter is taken for. -/
structure SameEdits (f g h h' : Filter) : Prop where
  setWith : ∀ k r v, (f.setWith k r v == g.setWith k r v) = true
  delete : ∀ k, (f.delete k == g.delete k) = true
  and : (f.and h == g.and h') = true
  all : (f.all == g.all) = true
  sort : ∀ field order, (f.sort field order == g.sort field order) = true
  setLevels : ∀ levels, (f.setLevels levels == g.setLevels levels) = true
  firstPage : (f.firstPage == g.firstPage) = true
  nextPage : (f.nextPage.value == g.nextPage.value) = true
  previousPage : (f.previousPage.value == g.previousPage.value) = true
  withRows : ∀ n, (f.withRows n == g.withRows n) = true
  simple : (f.simple == g.simple) = true
  mergePresentation : (f.mergePresentation h == g.mergePresentation h') = true

theorem Alike.sameEdits (H : f.Alike g) (hf : f.WellFormed) (hg : g.WellFormed)
    (H' : h.Alike h') (hh : h.WellFormed) (hh' : h'.WellFormed) : SameEdits f g h h' where
  setWith k r v := (beq_iff_alike (hf.setWith k r v) (hg.setWith k r v)).2 (H.setWith k r v)
  delete k := (beq_iff_alike (hf.delete k) (hg.delete k)).2 (H.delete k)
  and := (beq_iff_alike (hf.and hh) (hg.and hh')).2 (H.and hh hh' H')
  all := (beq_iff_alike hf.all hg.all).2 H.all
  sort field order := (beq_iff_alike (hf.sort field order) (hg.sort field order)).2 (H.set _ _)
  setLevels levels :=
    (beq_iff_alike (hf.setLevels levels) (hg.setLevels levels)).2 (H.setLevels levels)
  firstPage := (beq_iff_alike (hf.withFirst 1) (hg.withFirst 1)).2 (H.withFirst 1)
  nextPage := (beq_iff_alike (hf.movePage _) (hg.movePage _)).2 (H.movePage _)
  previousPage := (beq_iff_alike (hf.movePage _) (hg.movePage _)).2 (H.movePage _)
  withRows n := (beq_iff_alike (hf.withRows n) (hg.withRows n)).2 (H.set _ _)
  simple := (beq_iff_alike hf.simple hg.simple).2 H.simple
  mergePresentation :=
    (beq_iff_alike (hf.mergePresentation h) (hg.mergePresentation h')).2 (H.mergePresentation H')

/-! ## Equality of filters of all runs -/

/-- Equality is an equivalence, agrees with the order-free comparison of terms and with what a hash
is made from, and is kept by every question and every edit. -/
theorem beq_congr_of_reachable (hf : Reachable f) (hg : Reachable g) :
    ((f == g) = true ↔ f.terms.Perm g.terms) ∧
    ((f == g) = true ↔ f.sortedTerms = g.sortedTerms) ∧
    (f == f) = true ∧
    ((f == g) = true → (g == f) = true) ∧
    (∀ e, Reachable e → (f == g) = true → (g == e) = true → (f == e) = true) ∧
    ((f == g) = true → SameAnswers f g ∧
      ∀ h h', Reachable h → Reachable h' → (h == h') = true → SameEdits f g h h') := by
  have hwf := hf.wellFormed
  have hwg := hg.wellFormed
  have hperm : (f == g) = true ↔ f.terms.Perm g.terms := beq_iff_perm hwf
  refine ⟨hperm, hperm.trans (sortedTerms_eq_iff hwf).symm, (beq_iff_perm hwf).2 (.refl _), ?_,
    ?_, ?_⟩
  · intro hfg
    exact (beq_iff_perm hwg).2 (hperm.1 hfg).symm
  · intro e _ hfg hge
    exact (beq_iff_perm hwf).2 ((hperm.1 hfg).trans ((beq_iff_perm hwg).1 hge))
  · intro hfg
    have halike := (beq_iff_alike hwf hwg).1 hfg
    refine ⟨halike.sameAnswers (hperm.1 hfg), fun h h' hh hh' heq => ?_⟩
    have hwh := hh.wellFormed
    have hwh' := hh'.wellFormed
    exact halike.sameEdits hwf hwg ((beq_iff_alike hwh hwh').1 heq) hwh hwh'

/-- Filters that were made in another order, one of them by an edit. -/
theorem beq_congr_of_reachable_reordered :
    ∃ f g h h', Reachable f ∧ Reachable g ∧ Reachable h ∧ Reachable h' ∧
      f.terms ≠ g.terms ∧ (f == g) = true ∧ h.terms ≠ h'.terms ∧ (h == h') = true ∧
      SameAnswers f g ∧ SameEdits f g h h' := by
  let f := (ofString "id~\"a b\" tag=1").setWith " OS " .equal "x"
  let g := ofString "os=x tag=5 id~\"a b\" Tag=1"
  let h := ofString "ip>2 sort=id"
  let h' := ofString "sort=id ip>2"
  have hf : Reachable f := (Reachable.ofString _).setWith _ _ _
  have hg : Reachable g := .ofString _
  have hh : Reachable h := .ofString _
  have hh' : Reachable h' := .ofString _
  have hfg : (f == g) = true := by decide +kernel
  have heq : (h == h') = true := by decide +kernel
  obtain ⟨-, -, -, -, -, hcongr⟩ := beq_congr_of_reachable hf hg
  obtain ⟨hanswers, hedits⟩ := hcongr hfg
  have hterms : f.terms ≠ g.terms := by decide +kernel
  have hterms' : h.terms ≠ h'.terms := by decide +kernel
  exact ⟨f, g, h, h', hf, hg, hh, hh', hterms, hfg, hterms', heq, hanswers, hedits h h' hh hh' heq⟩

end ListView.Filter
