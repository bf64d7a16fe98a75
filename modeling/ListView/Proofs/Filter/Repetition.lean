import ListView.Proofs.Filter.Conjunction
import ListView.Proofs.Filter.Setting

/-!
# Repeated keywords

What is left of terms that are put in one after another. Of a keyword that comes
again the last term counts, at the place of the first (`find?_foldl_insert`,
`pairwise_unsortedKeywords`). The two directions of a sort count as one keyword:
only the last of them stays (`sortTerms_foldl_insert`). So what is read from
a text is known from the terms of its tokens (`folded_ofString`).
-/

namespace ListView

/-- Whether the keyword is one of the two directions of a sort. -/
def Keyword.isSort (k : String) : Bool := k = sort || k = sortReverse

namespace Filter

open Token

variable {t : Term} {ts : List Term} {k l : String}

theorem rival?_eq_none_iff : Keyword.rival? k = none ↔ Keyword.isSort k = false := by
  have hne : Keyword.sortReverse ≠ Keyword.sort := by decide
  unfold Keyword.rival? Keyword.isSort
  by_cases hs : k = Keyword.sort
  · simp [hs]
  · by_cases hr : k = Keyword.sortReverse
    · simp [hr, hne]
    · simp [hs, hr]

theorem rival?_ne_some_of_not_isSort (h : Keyword.isSort k = false) (l : String) :
    Keyword.rival? k ≠ some l := by
  rw [rival?_eq_none_iff.2 h]
  exact (Option.some_ne_none l).symm

theorem rival?_eq_some_of_isSort (hk : Keyword.isSort k = true) (hl : Keyword.isSort l = true)
    (h : l ≠ k) : Keyword.rival? k = some l := by
  simp only [Keyword.isSort, Bool.or_eq_true, decide_eq_true_eq] at hk hl
  rw [rival?_eq_some_iff]
  rcases hk with hk | hk <;> rcases hl with hl | hl
  · exact absurd (hl.trans hk.symm) h
  · exact .inl ⟨hk, hl⟩
  · exact .inr ⟨hk, hl⟩
  · exact absurd (hl.trans hk.symm) h

/-! ## The last term of a keyword -/

section Unsorted

variable (hk : Keyword.isSort k = false)

include hk

theorem not_rival_of_unsorted (t : Term) : Keyword.rival? t.keyword ≠ some k := fun h =>
  rival?_ne_some_of_not_isSort hk t.keyword (rival?_comm.1 h)

theorem find?_foldl_insert (ts : List Term) :
    (ts.foldl insert ∅).find? k = (ts.filter (·.keyword = k)).getLast? := by
  induction ts using List.reverseRecOn with
  | nil => rfl
  | append_singleton ts t ih =>
    rw [List.foldl_concat, find?_insert, if_neg (not_rival_of_unsorted hk t), ih,
      List.filter_append, List.getLast?_append]
    by_cases ht : t.keyword = k <;> simp [ht]

theorem mem_keywords_foldl_insert (ts : List Term) :
    k ∈ (ts.foldl insert ∅).keywords ↔ k ∈ ts.map (·.keyword) := by
  induction ts using List.reverseRecOn with
  | nil => exact Iff.rfl
  | append_singleton ts t ih =>
    rw [List.foldl_concat, mem_keywords_insert, and_iff_left (not_rival_of_unsorted hk t), ih,
      List.map_append, List.mem_append, or_comm]
    simp

end Unsorted

/-! ## The last direction of a sort -/

def sortTerms (ts : List Term) : List Term := ts.filter fun t => Keyword.isSort t.keyword

theorem sortTerms_insert (ht : Keyword.isSort t.keyword = false) (f : Filter) :
    sortTerms (f.insert t).terms = sortTerms f.terms := by
  rw [sortTerms, filter_insert_of_false (fun u hu => hu ▸ ht), withoutRival_of_not_mem, sortTerms]
  exact fun u _ => rival?_ne_some_of_not_isSort ht u.keyword

/-- The direction that comes in is the only one. -/
theorem sortTerms_insert_of_isSort (ht : Keyword.isSort t.keyword = true) {f : Filter}
    {o : Option Term} (hf : sortTerms f.terms = o.toList) : sortTerms (f.insert t).terms = [t] := by
  rw [sortTerms, filter_insert_of_true (fun u hu => hu ▸ ht), ← sortTerms, hf]
  cases o with
  | none =>
    rw [Option.toList_none, withoutRival_of_not_mem fun u hu => absurd hu List.not_mem_nil]
    rfl
  | some u =>
    have hu : Keyword.isSort u.keyword = true :=
      (List.mem_filter.1 (hf ▸ List.mem_singleton_self u : u ∈ sortTerms f.terms)).2
    by_cases hkey : u.keyword = t.keyword
    · rw [withoutRival_of_not_mem]
      · simp [replaceOrAppend, hkey]
      · intro v hv
        rw [List.mem_singleton.1 hv, hkey]
        exact rival?_ne_self t.keyword
    · simp [withoutRival, rival?_eq_some_of_isSort ht hu hkey, replaceOrAppend]

theorem sortTerms_foldl_insert (ts : List Term) :
    sortTerms (ts.foldl insert ∅).terms = (sortTerms ts).getLast?.toList := by
  induction ts using List.reverseRecOn with
  | nil => rfl
  | append_singleton ts t ih =>
    rw [List.foldl_concat]
    cases ht : Keyword.isSort t.keyword with
    | false => rw [sortTerms_insert ht, ih]; simp [sortTerms, ht]
    | true => rw [sortTerms_insert_of_isSort ht ih]; simp [sortTerms, ht]

/-! ## The order of first occurrence -/

/-- The place of the first term with the keyword. -/
def firstPlace (ts : List Term) (k : String) : Nat := ts.findIdx (·.keyword = k)

theorem firstPlace_lt (h : k ∈ ts.map (·.keyword)) : firstPlace ts k < ts.length := by
  obtain ⟨u, hu, hkey⟩ := List.mem_map.1 h
  exact List.findIdx_lt_length_of_exists ⟨u, hu, decide_eq_true hkey⟩

theorem firstPlace_concat_of_mem (h : k ∈ ts.map (·.keyword)) (t : Term) :
    firstPlace (ts ++ [t]) k = firstPlace ts k := by
  rw [firstPlace, List.findIdx_append]
  exact if_pos (firstPlace_lt h)

theorem firstPlace_concat_of_not_mem (h : t.keyword ∉ ts.map (·.keyword)) :
    firstPlace (ts ++ [t]) t.keyword = ts.length := by
  have hnone : ts.findIdx (·.keyword = t.keyword) = ts.length := by
    refine List.findIdx_eq_length_of_false fun u hu => decide_eq_false fun hkey => ?_
    exact h (List.mem_map.2 ⟨u, hu, hkey⟩)
  rw [firstPlace, List.findIdx_append, hnone, if_neg (Nat.lt_irrefl _)]
  simp

/-- The keywords other than those of a sort, in the order of the terms. -/
def unsortedKeywords (f : Filter) : List String :=
  (f.terms.filter fun t => !Keyword.isSort t.keyword).map (·.keyword)

theorem mem_unsortedKeywords {f : Filter} :
    k ∈ f.unsortedKeywords ↔ k ∈ f.keywords ∧ Keyword.isSort k = false := by
  simp only [unsortedKeywords, keywords, List.mem_map, List.mem_filter, Bool.not_eq_true']
  constructor
  · rintro ⟨t, ⟨ht, hsort⟩, rfl⟩
    exact ⟨⟨t, ht, rfl⟩, hsort⟩
  · rintro ⟨⟨t, ht, rfl⟩, hsort⟩
    exact ⟨t, ⟨ht, hsort⟩, rfl⟩

theorem unsortedKeywords_insert_of_isSort (ht : Keyword.isSort t.keyword = true) (f : Filter) :
    (f.insert t).unsortedKeywords = f.unsortedKeywords := by
  rw [unsortedKeywords, filter_insert_of_false (fun u hu => by rw [hu, ht]; rfl),
    withoutRival_of_not_mem, unsortedKeywords]
  intro u hu h
  have hsort := (List.mem_filter.1 hu).2
  rw [Bool.not_eq_true'] at hsort
  exact not_rival_of_unsorted hsort t h

theorem unsortedKeywords_insert (ht : Keyword.isSort t.keyword = false) (f : Filter) :
    (f.insert t).unsortedKeywords =
      if t.keyword ∈ f.unsortedKeywords then f.unsortedKeywords
      else f.unsortedKeywords ++ [t.keyword] := by
  rw [unsortedKeywords, filter_insert_of_true (fun u hu => by rw [hu, ht]; rfl),
    withoutRival_of_not_mem fun u _ => rival?_ne_some_of_not_isSort ht u.keyword,
    keywords_replaceOrAppend]
  rfl

theorem pairwise_unsortedKeywords (ts : List Term) :
    (ts.foldl insert ∅).unsortedKeywords.Pairwise fun k l => firstPlace ts k < firstPlace ts l := by
  induction ts using List.reverseRecOn with
  | nil => exact .nil
  | append_singleton ts t ih =>
    rw [List.foldl_concat]
    have hplace : ∀ k ∈ (ts.foldl insert ∅).unsortedKeywords, k ∈ ts.map (·.keyword) := by
      intro k hk
      obtain ⟨hmem, hsort⟩ := mem_unsortedKeywords.1 hk
      exact (mem_keywords_foldl_insert hsort ts).1 hmem
    have hold : (ts.foldl insert ∅).unsortedKeywords.Pairwise fun k l =>
        firstPlace (ts ++ [t]) k < firstPlace (ts ++ [t]) l :=
      ih.imp_of_mem fun hk hl h => by
        rwa [firstPlace_concat_of_mem (hplace _ hk), firstPlace_concat_of_mem (hplace _ hl)]
    cases ht : Keyword.isSort t.keyword with
    | true => rwa [unsortedKeywords_insert_of_isSort ht]
    | false =>
      rw [unsortedKeywords_insert ht]
      split
      · exact hold
      · rename_i hnew
        have hnew' : t.keyword ∉ ts.map (·.keyword) := fun h =>
          hnew (mem_unsortedKeywords.2 ⟨(mem_keywords_foldl_insert ht ts).2 h, ht⟩)
        refine List.pairwise_append.2 ⟨hold, List.pairwise_singleton _ _, fun k hk l hl => ?_⟩
        rw [List.mem_singleton.1 hl, firstPlace_concat_of_mem (hplace k hk),
          firstPlace_concat_of_not_mem hnew']
        exact firstPlace_lt (hplace k hk)

/-! ## What is read from a text -/

/-- What a filter is that is left of the terms `ts`. -/
structure Folded (ts : List Term) (f : Filter) : Prop where
  last : ∀ k, Keyword.isSort (Term.normalizeKeyword k) = false →
    f.term? k = (ts.filter (·.keyword = Term.normalizeKeyword k)).getLast?
  order : (f.terms.filter fun t => !Keyword.isSort t.keyword).Pairwise fun t u =>
    firstPlace ts t.keyword < firstPlace ts u.keyword
  sort : (f.terms.filter fun t => Keyword.isSort t.keyword) =
    (ts.filter fun t => Keyword.isSort t.keyword).getLast?.toList
  only : ∀ t ∈ f.terms, Keyword.isSort t.keyword = false →
    (ts.filter (·.keyword = t.keyword)).getLast? = some t

theorem folded_foldl_insert (h : ∀ t ∈ ts, Term.NormalKeyword t.keyword) :
    Folded ts (ts.foldl insert ∅) where
  last _ hk := find?_foldl_insert hk ts
  order := by
    have hpairwise := pairwise_unsortedKeywords ts
    rwa [unsortedKeywords, List.pairwise_map] at hpairwise
  sort := sortTerms_foldl_insert ts
  only := by
    intro t ht hsort
    rw [← find?_foldl_insert hsort]
    exact (WellFormed.empty.foldl_insert h).find?_eq_some_iff.2 ⟨ht, rfl⟩

/-- What is read from a text is what is left of the terms of its tokens, and a token that is no term
leaves no trace. -/
theorem folded_ofString (text : String) :
    Folded (termsOf text) (ofString text) ∧
      ∀ text' before token after, tokens text.toList = before ++ token :: after →
        Term.parse? token = none → tokens text'.toList = before ++ after →
        (ofString text').terms = (ofString text).terms := by
  constructor
  · rw [ofString_eq_foldl]
    exact folded_foldl_insert fun _ => normal_of_mem_termsOf
  · intro text' before token after htext hskip htext'
    have hsame : termsOf text' = termsOf text := by
      rw [termsOf, termsOf, htext, htext', List.filterMap_append, List.filterMap_append,
        List.filterMap_cons_none hskip]
    rw [ofString_eq_foldl, ofString_eq_foldl, hsame]

/-- A sort that is turned around twice, keywords that come again, and a token that begins with an
operator. -/
theorem folded_ofString_turned :
    let f := ofString "ID=1 SORT=a =\"j k\" TAG~x SORT-REVERSE=b ID>2 SORT=c TAG=y"
    f.term? " Id" = some ⟨"id", .greater, "2"⟩ ∧
      (f.terms.filter fun t => Keyword.isSort t.keyword) = [⟨"sort", .equal, "c"⟩] ∧
      (ofString "ID=1 SORT=a TAG~x SORT-REVERSE=b ID>2 SORT=c TAG=y").terms = f.terms ∧
      f.terms = [⟨"id", .greater, "2"⟩, ⟨"tag", .equal, "y"⟩, ⟨"sort", .equal, "c"⟩] := by
  intro f
  obtain ⟨hfolded, hskip⟩ :=
    folded_ofString "ID=1 SORT=a =\"j k\" TAG~x SORT-REVERSE=b ID>2 SORT=c TAG=y"
  refine ⟨?_, ?_, ?_, by decide +kernel⟩
  · rw [hfolded.last " Id" (by decide +kernel)]
    decide +kernel
  · rw [hfolded.sort]
    decide +kernel
  · exact hskip _ ["ID=1".toList, "SORT=a".toList] "=\"j k\"".toList
      ["TAG~x".toList, "SORT-REVERSE=b".toList, "ID>2".toList, "SORT=c".toList, "TAG=y".toList]
      (by decide +kernel) (by decide +kernel) (by decide +kernel)

end Filter

end ListView
