import Mathlib.Data.List.Nodup
import Mathlib.Data.List.Perm.Subperm
import ListView.Filter.Basic
import ListView.Proofs.Filter.Term

/-!
# Well-formed filters

A filter has one term for a keyword, not both directions of a sort, and its
keywords are in normal form. Putting a term in keeps this; a list of terms that
has it is what comes of putting its terms in one by one (`foldl_insert`). The
order in which a filter is printed holds its terms, each once
(`perm_printOrder`), and two filters are equal if they have the same terms
(`beq_iff_perm`).
-/

namespace ListView.Filter

open Text Token

def keywords (f : Filter) : List String := f.terms.map (·.keyword)

theorem mem_keywords {f : Filter} {k : String} : k ∈ f.keywords ↔ ∃ t ∈ f.terms, t.keyword = k :=
  List.mem_map

theorem mem_keywords_of_mem {f : Filter} {t : Term} (h : t ∈ f.terms) : t.keyword ∈ f.keywords :=
  List.mem_map_of_mem h

theorem has_iff_mem_keywords {f : Filter} {k : String} :
    f.has k = true ↔ Term.normalizeKeyword k ∈ f.keywords := by
  rw [has, term?, find?, List.find?_isSome, mem_keywords]
  simp

structure WellFormed (f : Filter) : Prop where
  distinct : f.keywords.Nodup
  oneSort : ¬ (Keyword.sort ∈ f.keywords ∧ Keyword.sortReverse ∈ f.keywords)
  normal : ∀ k ∈ f.keywords, Term.NormalKeyword k

/-! ## Putting a term in -/

theorem keywords_replaceOrAppend (t : Term) (terms : List Term) :
    (replaceOrAppend t terms).map (·.keyword) =
      if t.keyword ∈ terms.map (·.keyword) then terms.map (·.keyword)
      else terms.map (·.keyword) ++ [t.keyword] := by
  induction terms with
  | nil => simp [replaceOrAppend]
  | cons u rest ih =>
    rw [replaceOrAppend]
    by_cases hu : u.keyword = t.keyword
    · simp [hu]
    · rw [if_neg hu, List.map_cons, ih]
      by_cases hrest : t.keyword ∈ rest.map (·.keyword)
      · rw [if_pos hrest, if_pos (by rw [List.map_cons]; exact .tail _ hrest), List.map_cons]
      · rw [if_neg hrest, if_neg (by simp [Ne.symm hu, hrest])]
        rfl

theorem replaceOrAppend_of_not_mem {t : Term} {terms : List Term}
    (h : t.keyword ∉ terms.map (·.keyword)) : replaceOrAppend t terms = terms ++ [t] := by
  induction terms with
  | nil => rfl
  | cons u rest ih =>
    rw [List.map_cons, List.mem_cons, not_or] at h
    rw [replaceOrAppend, if_neg (Ne.symm h.1), ih h.2]
    rfl

theorem mem_of_mem_replaceOrAppend {t u : Term} {terms : List Term}
    (h : u ∈ replaceOrAppend t terms) : u = t ∨ u ∈ terms := by
  induction terms with
  | nil => exact .inl (List.mem_singleton.1 h)
  | cons v rest ih =>
    rw [replaceOrAppend] at h
    split at h
    · rcases List.mem_cons.1 h with h | h
      · exact .inl h
      · exact .inr (List.mem_cons_of_mem _ h)
    · rcases List.mem_cons.1 h with h | h
      · exact .inr (h ▸ List.mem_cons_self)
      · exact (ih h).imp id (List.mem_cons_of_mem _)

theorem withoutRival_sublist (k : String) (terms : List Term) :
    (withoutRival k terms).Sublist terms := by
  unfold withoutRival
  split
  · exact List.filter_sublist
  · exact .refl _

theorem mem_withoutRival {k : String} {terms : List Term} {t : Term} :
    t ∈ withoutRival k terms ↔ t ∈ terms ∧ Keyword.rival? k ≠ some t.keyword := by
  unfold withoutRival
  split
  · rename_i rival hrival
    rw [List.mem_filter, decide_eq_true_eq, hrival, ne_eq, ne_eq, Option.some.injEq]
    exact and_congr_right fun _ => not_congr eq_comm
  · rename_i hrival
    simp [hrival]

theorem withoutRival_of_not_mem {k : String} {terms : List Term}
    (h : ∀ t ∈ terms, Keyword.rival? k ≠ some t.keyword) : withoutRival k terms = terms := by
  unfold withoutRival
  split
  · rename_i rival hrival
    refine List.filter_eq_self.2 fun t ht => ?_
    have hne := h t ht
    rw [hrival, ne_eq, Option.some.injEq] at hne
    exact decide_eq_true (Ne.symm hne)
  · rfl

theorem mem_of_mem_insert {f : Filter} {t u : Term} (h : u ∈ (f.insert t).terms) :
    u = t ∨ u ∈ f.terms :=
  (mem_of_mem_replaceOrAppend h).imp id fun hu => (mem_withoutRival.1 hu).1

theorem mem_keywords_insert {f : Filter} {t : Term} {k : String} :
    k ∈ (f.insert t).keywords ↔
      k = t.keyword ∨ k ∈ f.keywords ∧ Keyword.rival? t.keyword ≠ some k := by
  have hrest : k ∈ (withoutRival t.keyword f.terms).map (·.keyword) ↔
      k ∈ f.keywords ∧ Keyword.rival? t.keyword ≠ some k := by
    simp only [List.mem_map, mem_withoutRival, mem_keywords]
    constructor
    · rintro ⟨u, ⟨hu, hne⟩, rfl⟩
      exact ⟨⟨u, hu, rfl⟩, hne⟩
    · rintro ⟨⟨u, hu, rfl⟩, hne⟩
      exact ⟨u, ⟨hu, hne⟩, rfl⟩
  rw [← hrest, keywords, insert, keywords_replaceOrAppend]
  split
  · rename_i hmem
    constructor
    · exact .inr
    · rintro (rfl | h)
      · exact hmem
      · exact h
  · simp [or_comm]

theorem insert_empty (t : Term) : (∅ : Filter).insert t = ofTerm t := by
  have hrest : withoutRival t.keyword [] = [] :=
    withoutRival_of_not_mem fun u hu => absurd hu List.not_mem_nil
  rw [insert, show (∅ : Filter).terms = [] from rfl, hrest]
  rfl

/-! ## What keeps a filter well formed -/

namespace WellFormed

variable {f g : Filter}

theorem empty : WellFormed ∅ :=
  ⟨List.nodup_nil, fun h => absurd h.1 List.not_mem_nil, fun _ h => absurd h List.not_mem_nil⟩

theorem of_sublist (hf : f.WellFormed) (h : g.terms.Sublist f.terms) : g.WellFormed := by
  have hkeys : g.keywords.Sublist f.keywords := h.map _
  exact ⟨hf.distinct.sublist hkeys,
    fun hboth => hf.oneSort ⟨hkeys.subset hboth.1, hkeys.subset hboth.2⟩,
    fun k hk => hf.normal k (hkeys.subset hk)⟩

theorem of_perm (hf : f.WellFormed) (h : g.terms.Perm f.terms) : g.WellFormed := by
  have hkeys : g.keywords.Perm f.keywords := h.map _
  exact ⟨hkeys.nodup_iff.2 hf.distinct,
    fun hboth => hf.oneSort ⟨hkeys.mem_iff.1 hboth.1, hkeys.mem_iff.1 hboth.2⟩,
    fun k hk => hf.normal k (hkeys.mem_iff.1 hk)⟩

theorem insert (hf : f.WellFormed) {t : Term} (ht : Term.NormalKeyword t.keyword) :
    (f.insert t).WellFormed where
  distinct := by
    have hrest : ((withoutRival t.keyword f.terms).map (·.keyword)).Nodup :=
      hf.distinct.sublist ((withoutRival_sublist _ _).map _)
    rw [keywords, Filter.insert, keywords_replaceOrAppend]
    split
    · exact hrest
    · rename_i hmem
      refine List.nodup_append.2 ⟨hrest, List.nodup_singleton _, fun a ha b hb hab => hmem ?_⟩
      rwa [hab, List.mem_singleton.1 hb] at ha
  oneSort := by
    rw [mem_keywords_insert, mem_keywords_insert]
    rintro ⟨hs | ⟨hs, hsr⟩, hr | ⟨hr, hrr⟩⟩
    · exact absurd (hs.trans hr.symm) (by decide)
    · exact hrr (by rw [← hs]; rfl)
    · exact hsr (by rw [← hr]; rfl)
    · exact hf.oneSort ⟨hs, hr⟩
  normal := by
    intro k hk
    rcases mem_keywords_insert.1 hk with rfl | ⟨hk, -⟩
    · exact ht
    · exact hf.normal k hk

theorem ofTerm {t : Term} (ht : Term.NormalKeyword t.keyword) : (ofTerm t).WellFormed := by
  rw [← insert_empty]
  exact WellFormed.empty.insert ht

theorem foldl_insert (hf : f.WellFormed) {terms : List Term}
    (h : ∀ t ∈ terms, Term.NormalKeyword t.keyword) :
    (terms.foldl Filter.insert f).WellFormed := by
  induction terms generalizing f with
  | nil => exact hf
  | cons t rest ih =>
    exact ih (hf.insert (h t List.mem_cons_self)) fun u hu => h u (List.mem_cons_of_mem _ hu)

theorem normal_of_mem (hf : f.WellFormed) {t : Term} (ht : t ∈ f.terms) :
    Term.NormalKeyword t.keyword := hf.normal _ (mem_keywords_of_mem ht)

/-- Terms with the same keyword are the same. -/
theorem eq_of_keyword_eq (hf : f.WellFormed) {t u : Term} (ht : t ∈ f.terms) (hu : u ∈ f.terms)
    (h : t.keyword = u.keyword) : t = u :=
  List.inj_on_of_nodup_map hf.distinct ht hu h

theorem nodup (hf : f.WellFormed) : f.terms.Nodup := List.Nodup.of_map _ hf.distinct

end WellFormed

/-! ## Putting terms in one by one -/

theorem rival?_eq_some {k rival : String} (h : Keyword.rival? k = some rival) :
    k = Keyword.sort ∧ rival = Keyword.sortReverse ∨
      k = Keyword.sortReverse ∧ rival = Keyword.sort := by
  unfold Keyword.rival? at h
  split at h
  · exact .inl ⟨‹_›, (Option.some.inj h).symm⟩
  · split at h
    · exact .inr ⟨‹_›, (Option.some.inj h).symm⟩
    · cases h

theorem rival?_comm {k rival : String} :
    Keyword.rival? k = some rival ↔ Keyword.rival? rival = some k := by
  have himp : ∀ {k rival}, Keyword.rival? k = some rival → Keyword.rival? rival = some k := by
    intro k rival hrival
    rcases rival?_eq_some hrival with ⟨rfl, rfl⟩ | ⟨rfl, rfl⟩ <;> rfl
  exact ⟨himp, himp⟩

theorem rival?_inj {k l rival : String} (hk : Keyword.rival? k = some rival)
    (hl : Keyword.rival? l = some rival) : k = l :=
  Option.some.inj ((rival?_comm.1 hk).symm.trans (rival?_comm.1 hl))

/-- Of keywords that do not hold both directions of a sort none is another's rival. -/
theorem rival?_ne_of_mem {keywords : List String}
    (h : ¬ (Keyword.sort ∈ keywords ∧ Keyword.sortReverse ∈ keywords)) {k l : String}
    (hk : k ∈ keywords) (hl : l ∈ keywords) : Keyword.rival? k ≠ some l := by
  intro hrival
  rcases rival?_eq_some hrival with ⟨rfl, rfl⟩ | ⟨rfl, rfl⟩
  · exact h ⟨hk, hl⟩
  · exact h ⟨hl, hk⟩

theorem WellFormed.rival_not_mem {f : Filter} (hf : f.WellFormed) {t u : Term} (ht : t ∈ f.terms)
    (hu : u ∈ f.terms) : Keyword.rival? t.keyword ≠ some u.keyword :=
  rival?_ne_of_mem hf.oneSort (mem_keywords_of_mem ht) (mem_keywords_of_mem hu)

theorem insert_of_wellFormed {xs ys : List Term} {t : Term}
    (h : WellFormed ⟨xs ++ t :: ys⟩) : insert ⟨xs⟩ t = ⟨xs ++ [t]⟩ := by
  have hkeys := h.distinct
  rw [keywords, List.map_append, List.map_cons, List.nodup_append] at hkeys
  rw [insert, withoutRival_of_not_mem fun u hu => h.rival_not_mem (t := t) (u := u) (by simp)
    (by simp [hu]), replaceOrAppend_of_not_mem]
  exact fun hmem => hkeys.2.2 _ hmem _ List.mem_cons_self rfl

/-- In a well-formed list no term gets in another's way. -/
theorem foldl_insert {xs ys : List Term} (h : WellFormed ⟨xs ++ ys⟩) :
    ys.foldl insert ⟨xs⟩ = ⟨xs ++ ys⟩ := by
  induction ys generalizing xs with
  | nil => simp
  | cons t rest ih =>
    rw [List.foldl_cons, insert_of_wellFormed h, ih (by simpa using h)]
    simp

theorem value_foldlM_addToken (cs : List (List Char)) (f : Filter) :
    (cs.foldlM addToken f).value = (cs.filterMap Term.parse?).foldl insert f := by
  induction cs generalizing f with
  | nil => rfl
  | cons token rest ih =>
    have htoken : (addToken f token).value = ((Term.parse? token).map f.insert).getD f := by
      unfold addToken
      cases Term.parse? token <;> rfl
    rw [List.foldlM_cons, Logged.value_bind, ih, htoken, List.filterMap_cons]
    cases Term.parse? token <;> rfl

theorem ofString_eq (text : String) :
    ofString text = ((tokens text.toList).filterMap Term.parse?).foldl insert ∅ :=
  value_foldlM_addToken _ _

theorem ofString_of_allBlank {text : String} (h : allBlank text = true) : ofString text = ∅ := by
  rw [ofString_eq, tokens_of_forall_blank (List.all_eq_true.1 h)]
  rfl

theorem mem_of_mem_foldl_insert {f : Filter} {ts : List Term} {t : Term}
    (h : t ∈ (ts.foldl insert f).terms) : t ∈ ts ∨ t ∈ f.terms := by
  induction ts generalizing f with
  | nil => exact .inr h
  | cons u rest ih =>
    rcases ih h with h | h
    · exact .inl (List.mem_cons_of_mem _ h)
    · rcases mem_of_mem_insert h with rfl | h
      · exact .inl List.mem_cons_self
      · exact .inr h

/-- Each term of a filter that was read comes from a token. -/
theorem exists_token_of_mem_ofString {text : String} {t : Term} (h : t ∈ (ofString text).terms) :
    ∃ token ∈ tokens text.toList, Term.parse? token = some t := by
  rw [ofString_eq] at h
  rcases mem_of_mem_foldl_insert h with h | h
  · exact List.mem_filterMap.1 h
  · exact absurd h List.not_mem_nil

theorem WellFormed.ofString (text : String) : (ofString text).WellFormed := by
  rw [ofString_eq]
  refine WellFormed.empty.foldl_insert fun t ht => ?_
  obtain ⟨token, -, hparse⟩ := List.mem_filterMap.1 ht
  exact Term.normal_of_parse? hparse

/-! ## The printed order -/

theorem keyword_of_find? {f : Filter} {k : String} {t : Term} (h : f.find? k = some t) :
    t.keyword = k := by
  simpa using List.find?_some h

theorem WellFormed.find?_eq_some_iff {f : Filter} (hf : f.WellFormed) {k : String} {t : Term} :
    f.find? k = some t ↔ t ∈ f.terms ∧ t.keyword = k := by
  constructor
  · intro h
    exact ⟨List.mem_of_find?_eq_some h, keyword_of_find? h⟩
  · rintro ⟨ht, rfl⟩
    cases hfind : f.find? t.keyword with
    | none => exact absurd (decide_eq_true rfl) (List.find?_eq_none.1 hfind t ht)
    | some u =>
      rw [hf.eq_of_keyword_eq (List.mem_of_find?_eq_some hfind) ht (keyword_of_find? hfind)]

theorem WellFormed.has_of_find? {f : Filter} (hf : f.WellFormed) {k : String} {t : Term}
    (h : f.find? k = some t) : f.has k = true := by
  obtain ⟨ht, rfl⟩ := hf.find?_eq_some_iff.1 h
  rw [has_iff_mem_keywords, (hf.normal_of_mem ht).2]
  exact mem_keywords_of_mem ht

/-- The terms with those for paging put last. -/
def pagingLast (f : Filter) : List Term :=
  f.terms.filter (fun t => t.keyword ≠ Keyword.rows && t.keyword ≠ Keyword.first) ++
    (f.find? Keyword.rows).toList ++ (f.find? Keyword.first).toList

theorem printOrder_eq (f : Filter) : f.printOrder = f.pagingLast := by
  have htrailing : Keyword.trailing.filterMap f.find? =
      (f.find? Keyword.rows).toList ++ (f.find? Keyword.first).toList := by
    simp only [Keyword.trailing, List.filterMap_cons, List.filterMap_nil]
    cases f.find? Keyword.rows <;> cases f.find? Keyword.first <;> rfl
  rw [printOrder, htrailing, pagingLast, List.append_assoc]
  congr 1
  refine List.filter_congr fun t _ => ?_
  simp [Keyword.trailing]

theorem mem_printOrder {f : Filter} (hf : f.WellFormed) {t : Term} :
    t ∈ f.printOrder ↔ t ∈ f.terms := by
  simp only [printOrder_eq, pagingLast, List.mem_append, Option.mem_toList, hf.find?_eq_some_iff,
    List.mem_filter]
  have hne : Keyword.rows ≠ Keyword.first := by decide
  by_cases hr : t.keyword = Keyword.rows
  · simp [hr, hne]
  · by_cases hfirst : t.keyword = Keyword.first
    · simp [hfirst, hne.symm]
    · simp [hr, hfirst]

theorem nodup_printOrder {f : Filter} (hf : f.WellFormed) : f.printOrder.Nodup := by
  have hopt : ∀ o : Option Term, o.toList.Nodup := fun o => by cases o <;> simp
  rw [printOrder_eq, pagingLast, List.nodup_append, List.nodup_append]
  refine ⟨⟨hf.nodup.filter _, hopt _, ?_⟩, hopt _, ?_⟩
  · intro t ht u hu htu
    rw [Option.mem_toList, hf.find?_eq_some_iff] at hu
    simp [htu, hu.2] at ht
  · intro t ht u hu htu
    rw [Option.mem_toList, hf.find?_eq_some_iff] at hu
    rw [List.mem_append, Option.mem_toList, hf.find?_eq_some_iff] at ht
    rcases ht with ht | ht
    · simp [htu, hu.2] at ht
    · exact absurd (ht.2.symm.trans (htu ▸ hu.2)) (by decide)

theorem perm_printOrder {f : Filter} (hf : f.WellFormed) : f.printOrder.Perm f.terms :=
  (List.perm_ext_iff_of_nodup (nodup_printOrder hf) hf.nodup).2 fun _ => mem_printOrder hf

theorem WellFormed.printOrder {f : Filter} (hf : f.WellFormed) : WellFormed ⟨f.printOrder⟩ :=
  hf.of_perm (perm_printOrder hf)

theorem find?_eq_of_perm {f g : Filter} (hf : f.WellFormed) (h : g.terms.Perm f.terms)
    (k : String) : g.find? k = f.find? k := by
  ext t
  rw [(hf.of_perm h).find?_eq_some_iff, hf.find?_eq_some_iff, h.mem_iff]

/-- Terms in printed order are printed in this order. -/
theorem printOrder_printOrder {f : Filter} (hf : f.WellFormed) :
    Filter.printOrder ⟨f.printOrder⟩ = f.printOrder := by
  have hfind := find?_eq_of_perm hf (g := ⟨f.printOrder⟩) (perm_printOrder hf)
  have hdrop : ∀ k ∈ Keyword.trailing, (f.find? k).toList.filter
      (fun t => t.keyword ≠ Keyword.rows && t.keyword ≠ Keyword.first) = [] := by
    intro k hk
    refine List.filter_eq_nil_iff.2 fun t ht => ?_
    rw [Option.mem_toList, hf.find?_eq_some_iff] at ht
    simp only [Keyword.trailing, List.mem_cons, List.not_mem_nil, or_false] at hk
    rcases hk with rfl | rfl <;> simp [ht.2]
  rw [printOrder_eq ⟨f.printOrder⟩, pagingLast, hfind, hfind]
  conv => lhs; rw [printOrder_eq f, pagingLast]
  rw [List.filter_append, List.filter_append, hdrop _ (by simp [Keyword.trailing]),
    hdrop _ (by simp [Keyword.trailing]), List.filter_filter, printOrder_eq f, pagingLast]
  simp

/-! ## Equality -/

theorem beq_iff_perm {f g : Filter} (hf : f.WellFormed) :
    (f == g) = true ↔ f.terms.Perm g.terms := by
  show same f g = true ↔ _
  rw [same, Bool.and_eq_true, beq_iff_eq, List.all_eq_true]
  constructor
  · rintro ⟨hsize, hall⟩
    have hsub : f.terms ⊆ g.terms := fun t ht => by simpa [hasTerm] using hall t ht
    exact (List.subperm_of_subset hf.nodup hsub).perm_of_length_le (Nat.le_of_eq hsize.symm)
  · intro h
    exact ⟨h.length_eq, fun t ht => by simpa [hasTerm] using h.subset ht⟩

end ListView.Filter
