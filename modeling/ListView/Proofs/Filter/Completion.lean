import ListView.Proofs.Filter.Setting

/-!
# Completed filters

What a filter is after its presentation keywords were completed from another
one. Completing a keyword adds at most a term at the end (`terms_complete`). So a
term of its own stays, for a presentation keyword without a rival the term of the
other filter is found where it has none (`find?_mergePresentation`), and the
terms that are taken come behind its own in the order of the keywords
(`terms_mergePresentation`). Nothing is left to be taken a second time
(`completion_of_reachable`).
-/

namespace ListView.Filter

theorem normal_presentation : ∀ k ∈ Keyword.presentation, Term.NormalKeyword k := by
  have hall : ∀ k ∈ Keyword.presentation, k ≠ "" ∧ Term.normalizeKeyword k = k := by
    decide +kernel
  exact hall

/-- Whether a term for the keyword may come in: one direction of a sort counts for both. -/
def lacks (f : Filter) (k : String) : Bool :=
  !f.has k &&
    !((k = Keyword.sort || k = Keyword.sortReverse) &&
      (f.has Keyword.sort || f.has Keyword.sortReverse))

/-- The term that completing a keyword takes from the other filter. -/
def addition? (other f : Filter) (k : String) : Option Term :=
  if f.lacks k then other.find? k else none

variable {f g other : Filter} {k l : String}

theorem isSome_sortBy? (f : Filter) :
    f.sortBy?.isSome = (f.has Keyword.sort || f.has Keyword.sortReverse) := by
  simp only [sortBy?, get?, has]
  cases f.term? Keyword.sort <;> simp

theorem addition?_eq_some_iff {t : Term} :
    addition? other f k = some t ↔ f.lacks k = true ∧ other.find? k = some t := by
  simp [addition?]

theorem keyword_of_addition? {t : Term} (h : addition? other f k = some t) : t.keyword = k :=
  keyword_of_find? (addition?_eq_some_iff.1 h).2

/-! ## One keyword -/

theorem complete_eq (hk : Term.NormalKeyword k) (other f : Filter) :
    complete other f k = (addition? other f k).elim f f.insert := by
  rw [complete, isSome_sortBy?, addition?, lacks, term?_of_normal hk]
  by_cases hown : f.has k = true
  · simp [hown]
  · rw [if_neg hown]
    split
    · rename_i hsort
      simp [hsort]
    · rename_i hsort
      simp only [Bool.not_eq_true] at hown hsort
      rw [hown, hsort]
      cases hother : other.find? k with
      | none => rfl
      | some t =>
        rw [← keyword_of_find? hother] at hk ⊢
        simp [setWith_of_normal hk]

theorem has_eq_decide (hk : Term.NormalKeyword k) (f : Filter) :
    f.has k = decide (k ∈ f.keywords) := by
  rw [Bool.eq_iff_iff, has_iff_mem_keywords, hk.2, decide_eq_true_eq]

theorem lacks_iff (hk : Term.NormalKeyword k) :
    f.lacks k = true ↔
      k ∉ f.keywords ∧ ∀ l, Keyword.SortPair k l → l ∉ f.keywords := by
  have hne : Keyword.sort ≠ Keyword.sortReverse := by decide
  rw [lacks, has_eq_decide hk, has_eq_decide normal_sort, has_eq_decide normal_sortReverse]
  by_cases hs : k = Keyword.sort
  · simp [hs, Keyword.SortPair, hne]
  · by_cases hr : k = Keyword.sortReverse
    · simp [hr, Keyword.SortPair, hne.symm, and_comm]
    · simp [Keyword.SortPair, hs, hr]

/-- A completed keyword brings its term to the end, and moves nothing. -/
theorem terms_complete (hk : Term.NormalKeyword k) (other f : Filter) :
    (complete other f k).terms = f.terms ++ (addition? other f k).toList := by
  rw [complete_eq hk]
  cases hadd : addition? other f k with
  | none => simp
  | some t =>
    have hkey := keyword_of_addition? hadd
    obtain ⟨hown, hpair⟩ := (lacks_iff hk).1 (addition?_eq_some_iff.1 hadd).1
    rw [← hkey] at hown hpair
    rw [Option.elim_some, insert_of_not_mem_keywords hown, List.filter_eq_self.2]
    · rfl
    · intro u hu
      rw [decide_eq_true_eq]
      exact fun h => hpair _ h (mem_keywords_of_mem hu)

/-- Completing one keyword leaves all others alone. -/
theorem find?_complete (hk : Term.NormalKeyword k) (other f : Filter) (l : String) :
    (complete other f k).find? l =
      if k = l then (f.find? l).or (addition? other f l) else f.find? l := by
  rw [find?, terms_complete hk, List.find?_append, ← find?]
  cases hadd : addition? other f k with
  | none =>
    split
    · rename_i hkl
      subst hkl
      rw [hadd]
      rfl
    · simp
  | some t =>
    have hkey := keyword_of_addition? hadd
    split
    · rename_i hkl
      subst hkl
      rw [hadd]
      simp [hkey]
    · rename_i hkl
      simp [hkey, hkl]

/-- What is taken for one keyword does not depend on whether another one came first. -/
theorem addition?_complete (hother : other.WellFormed) (hk : Term.NormalKeyword k)
    (hl : Term.NormalKeyword l) (hkl : k ≠ l) (f : Filter) :
    addition? other (complete other f k) l = addition? other f l := by
  rw [addition?, addition?]
  cases hfind : other.find? l with
  | none => simp
  | some u =>
    cases hadd : addition? other f k with
    | none => rw [complete_eq hk, hadd]; rfl
    | some t =>
      -- the other filter has both keywords, so they are not the two directions of a sort
      have hmem : ∀ {m v}, other.find? m = some v → m ∈ other.keywords := fun h =>
        mem_keywords.2 ⟨_, hother.find?_eq_some_iff.1 h⟩
      have hpair : ¬ Keyword.SortPair l k := fun h =>
        rival?_ne_of_mem hother.oneSort (hmem hfind)
          (hmem (addition?_eq_some_iff.1 hadd).2) (rival?_eq_some_iff.2 h)
      have hkeys : (complete other f k).keywords = f.keywords ++ [k] := by
        rw [keywords, terms_complete hk, hadd, List.map_append, ← keywords]
        exact congrArg (f.keywords ++ [·]) (keyword_of_addition? hadd)
      have hlacks : (complete other f k).lacks l = f.lacks l := by
        rw [Bool.eq_iff_iff, lacks_iff hl, lacks_iff hl, hkeys]
        simp only [List.mem_append, List.mem_singleton, not_or, Ne.symm hkl]
        refine and_congr (by simp) (forall₂_congr fun m hm => ?_)
        exact and_iff_left fun h => hpair (h ▸ hm)
      rw [hlacks]

/-! ## All presentation keywords -/

section Unrivalled

variable (hl : Keyword.rival? l = none)

include hl

theorem or_addition? (hnormal : Term.NormalKeyword l) (other f : Filter) :
    (f.find? l).or (addition? other f l) = (f.find? l).or (other.find? l) := by
  cases hown : f.find? l with
  | some t => rfl
  | none =>
    have hlacks : f.lacks l = true := by
      refine (lacks_iff hnormal).2 ⟨?_, fun m hm => ?_⟩
      · rw [← decide_eq_false_iff_not, ← has_eq_decide hnormal, has_of_normal hnormal, hown]
        rfl
      · rw [rival?_eq_some_iff.2 hm] at hl
        cases hl
    rw [addition?, if_pos hlacks]

theorem find?_foldl_complete (other : Filter) {keywords : List String}
    (hkeys : ∀ k ∈ keywords, Term.NormalKeyword k) (f : Filter) :
    (keywords.foldl (complete other) f).find? l =
      if l ∈ keywords then (f.find? l).or (other.find? l) else f.find? l := by
  induction keywords generalizing f with
  | nil => rw [List.foldl_nil, if_neg List.not_mem_nil]
  | cons k rest ih =>
    have hk := hkeys k List.mem_cons_self
    rw [List.foldl_cons, ih (fun u hu => hkeys u (List.mem_cons_of_mem k hu)), find?_complete hk]
    by_cases hkl : k = l
    · -- what was completed once is not completed again
      have hor : ((f.find? l).or (other.find? l)).or (other.find? l) =
          (f.find? l).or (other.find? l) := by
        cases f.find? l <;> cases other.find? l <;> rfl
      simp [hkl, or_addition? hl (hkl ▸ hk), hor]
    · simp [hkl, Ne.symm hkl]

/-- A keyword that rivals no other keeps its own term; one about presentation takes the other
filter's where it has none. -/
theorem find?_mergePresentation (f other : Filter) :
    (f.mergePresentation other).find? l =
      if l ∈ Keyword.presentation then (f.find? l).or (other.find? l) else f.find? l :=
  find?_foldl_complete hl other normal_presentation f

/-- A number about presentation is that of the filter, if it has the keyword at all. -/
theorem value_whole_mergePresentation (hpresent : l ∈ Keyword.presentation) (f other : Filter) :
    ((f.mergePresentation other).whole l).value =
      if f.has l then (f.whole l).value else (other.whole l).value := by
  have hnormal := normal_presentation l hpresent
  rw [value_whole hnormal, value_whole hnormal, value_whole hnormal, has_of_normal hnormal,
    find?_mergePresentation hl, if_pos hpresent]
  cases f.find? l <;> rfl

end Unrivalled

theorem rows_mergePresentation (f other : Filter) :
    (f.mergePresentation other).rows.value =
      if f.has Keyword.rows then f.rows.value else other.rows.value :=
  value_whole_mergePresentation rfl (by decide) f other

theorem first_mergePresentation (f other : Filter) :
    (f.mergePresentation other).first.value =
      if f.has Keyword.first then f.first.value else other.first.value := by
  rw [first, first, first, Logged.value_map, Logged.value_map, Logged.value_map,
    value_whole_mergePresentation rfl (by decide)]
  split <;> rfl

/-- The terms that are taken are known from the start. -/
theorem terms_foldl_complete (hother : other.WellFormed) {keywords : List String}
    (hnodup : keywords.Nodup) (hkeys : ∀ k ∈ keywords, Term.NormalKeyword k) (f : Filter) :
    (keywords.foldl (complete other) f).terms =
      f.terms ++ keywords.filterMap (addition? other f) := by
  induction keywords generalizing f with
  | nil => simp
  | cons k rest ih =>
    obtain ⟨hk, hrest⟩ := List.nodup_cons.1 hnodup
    have hnormal := hkeys k List.mem_cons_self
    have hkeys' : ∀ l ∈ rest, Term.NormalKeyword l := fun l hl =>
      hkeys l (List.mem_cons_of_mem k hl)
    have hsame : rest.filterMap (addition? other (complete other f k)) =
        rest.filterMap (addition? other f) :=
      List.filterMap_congr fun l hl =>
        addition?_complete hother hnormal (hkeys' l hl) (fun hkl => hk (hkl ▸ hl)) f
    rw [List.foldl_cons, ih hrest hkeys', hsame, terms_complete hnormal, List.append_assoc]
    congr 1
    rw [List.filterMap_cons]
    cases addition? other f k <;> rfl

theorem terms_mergePresentation (hother : other.WellFormed) (f : Filter) :
    (f.mergePresentation other).terms =
      f.terms ++ Keyword.presentation.filterMap (addition? other f) :=
  terms_foldl_complete hother (by decide) normal_presentation f

theorem mem_keywords_mergePresentation (hother : other.WellFormed) (f : Filter) {k : String} :
    k ∈ (f.mergePresentation other).keywords ↔
      k ∈ f.keywords ∨ k ∈ Keyword.presentation ∧ (addition? other f k).isSome = true := by
  rw [keywords, terms_mergePresentation hother, List.map_append, List.mem_append, ← keywords]
  refine or_congr_right ?_
  simp only [List.mem_map, List.mem_filterMap, Option.isSome_iff_exists]
  constructor
  · rintro ⟨t, ⟨l, hl, hadd⟩, rfl⟩
    rw [keyword_of_addition? hadd]
    exact ⟨hl, t, hadd⟩
  · rintro ⟨hk, t, hadd⟩
    exact ⟨t, ⟨k, hk, hadd⟩, keyword_of_addition? hadd⟩

/-- Nothing is left to be taken. -/
theorem addition?_mergePresentation (hother : other.WellFormed) (f : Filter)
    (hk : k ∈ Keyword.presentation) :
    addition? other (f.mergePresentation other) k = none := by
  have hnormal := normal_presentation k hk
  have hkept : ∀ {l}, l ∈ f.keywords → l ∈ (f.mergePresentation other).keywords := fun hl =>
    (mem_keywords_mergePresentation hother f).2 (.inl hl)
  cases hadd : addition? other (f.mergePresentation other) k with
  | none => rfl
  | some t =>
    obtain ⟨hlacks, hfind⟩ := addition?_eq_some_iff.1 hadd
    obtain ⟨hown, hpair⟩ := (lacks_iff hnormal).1 hlacks
    have hfirst : f.lacks k = true :=
      (lacks_iff hnormal).2 ⟨fun h => hown (hkept h), fun l hl h => hpair l hl (hkept h)⟩
    have htaken : addition? other f k = some t := addition?_eq_some_iff.2 ⟨hfirst, hfind⟩
    exact absurd ((mem_keywords_mergePresentation hother f).2 (.inr ⟨hk, by rw [htaken]; rfl⟩)) hown

theorem terms_mergePresentation_of_none (hother : other.WellFormed)
    (h : ∀ k ∈ Keyword.presentation, addition? other f k = none) :
    (f.mergePresentation other).terms = f.terms := by
  rw [terms_mergePresentation hother, List.filterMap_eq_nil_iff.2 h, List.append_nil]

theorem mergePresentation_twice (hother : other.WellFormed) (f : Filter) :
    ((f.mergePresentation other).mergePresentation other).terms =
      (f.mergePresentation other).terms :=
  terms_mergePresentation_of_none hother fun _ hk => addition?_mergePresentation hother f hk

/-- A filter has all that it could take from itself. -/
theorem mergePresentation_self (hf : f.WellFormed) : (f.mergePresentation f).terms = f.terms := by
  refine terms_mergePresentation_of_none hf fun k _ => ?_
  cases hadd : addition? f f k with
  | none => rfl
  | some t =>
    obtain ⟨hlacks, hfind⟩ := addition?_eq_some_iff.1 hadd
    rw [lacks, hf.has_of_find? hfind] at hlacks
    cases hlacks

end ListView.Filter
