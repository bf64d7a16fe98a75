import ListView.Proofs.Filter.WellFormed

/-!
# Order of insertion

When terms may be put in in another order. The last of two terms for one keyword
counts (`insert_insert`), and a term whose keyword a filter has may be put in
before or after terms for other keywords that are not its rivals (`insert_comm`):
it takes the same place. So a list of terms in which one was replaced does to a
filter what the list does with the new term after it
(`foldl_insert_replaceOrAppend`).
-/

namespace ListView.Filter

/-! ## Terms in a list -/

theorem filter_replaceOrAppend {p : Term → Bool} {t : Term}
    (h : ∀ u, u.keyword = t.keyword → p u = true) (terms : List Term) :
    (replaceOrAppend t terms).filter p = replaceOrAppend t (terms.filter p) := by
  have ht : p t = true := h t rfl
  induction terms with
  | nil => simp [replaceOrAppend, ht]
  | cons u rest ih =>
    rw [replaceOrAppend]
    by_cases hu : u.keyword = t.keyword
    · rw [if_pos hu, List.filter_cons_of_pos ht, List.filter_cons_of_pos (h u hu), replaceOrAppend,
        if_pos hu]
    · rw [if_neg hu, List.filter_cons, List.filter_cons, ih]
      split
      · rw [replaceOrAppend, if_neg hu]
      · rfl

theorem filter_replaceOrAppend_of_false {p : Term → Bool} {t : Term}
    (h : ∀ u, u.keyword = t.keyword → p u = false) (terms : List Term) :
    (replaceOrAppend t terms).filter p = terms.filter p := by
  have ht : p t = false := h t rfl
  induction terms with
  | nil => simp [replaceOrAppend, ht]
  | cons u rest ih =>
    rw [replaceOrAppend]
    split
    · rename_i hu
      simp [ht, h u hu]
    · rw [List.filter_cons, List.filter_cons, ih]

theorem filter_withoutRival (p : Term → Bool) (k : String) (terms : List Term) :
    (withoutRival k terms).filter p = withoutRival k (terms.filter p) := by
  unfold withoutRival
  split
  · exact List.filter_comm _ _ terms
  · rfl

theorem withoutRival_replaceOrAppend {k : String} {t : Term}
    (h : Keyword.rival? k ≠ some t.keyword) (terms : List Term) :
    withoutRival k (replaceOrAppend t terms) = replaceOrAppend t (withoutRival k terms) := by
  unfold withoutRival
  split
  · rename_i rival hrival
    refine filter_replaceOrAppend (fun u hu => ?_) terms
    rw [hrival, ne_eq, Option.some.injEq] at h
    simpa [hu] using Ne.symm h
  · rfl

theorem withoutRival_idem (k : String) (terms : List Term) :
    withoutRival k (withoutRival k terms) = withoutRival k terms :=
  withoutRival_of_not_mem fun _ ht => (mem_withoutRival.1 ht).2

theorem withoutRival_comm (k l : String) (terms : List Term) :
    withoutRival k (withoutRival l terms) = withoutRival l (withoutRival k terms) := by
  unfold withoutRival
  split <;> split
  · exact List.filter_comm _ _ terms
  · rfl
  · rfl
  · rfl

/-- The later term takes the place of the earlier one. -/
theorem replaceOrAppend_replaceOrAppend {t u : Term} (h : u.keyword = t.keyword)
    (terms : List Term) :
    replaceOrAppend t (replaceOrAppend u terms) = replaceOrAppend t terms := by
  induction terms with
  | nil => simp [replaceOrAppend, h]
  | cons v rest ih =>
    rw [replaceOrAppend, replaceOrAppend, h]
    split
    · rw [replaceOrAppend, if_pos h]
    · rename_i hv
      rw [replaceOrAppend, if_neg hv, ih]

/-- A term that has a place in the list leaves the end to the other. -/
theorem replaceOrAppend_comm {t u : Term} (h : u.keyword ≠ t.keyword) {terms : List Term}
    (ht : t.keyword ∈ terms.map (·.keyword)) :
    replaceOrAppend t (replaceOrAppend u terms) = replaceOrAppend u (replaceOrAppend t terms) := by
  induction terms with
  | nil => exact absurd ht List.not_mem_nil
  | cons v rest ih =>
    by_cases hvt : v.keyword = t.keyword
    · have hvu : v.keyword ≠ u.keyword := fun hvu => h (hvu.symm.trans hvt)
      simp only [replaceOrAppend, hvt, if_pos, if_neg (Ne.symm h)]
    · have hrest : t.keyword ∈ rest.map (·.keyword) :=
        (List.mem_cons.1 ht).resolve_left (Ne.symm hvt)
      by_cases hvu : v.keyword = u.keyword
      · simp only [replaceOrAppend, hvu, if_pos, if_neg h]
      · simp only [replaceOrAppend, if_neg hvu, if_neg hvt, ih hrest]

theorem replaceOrAppend_of_mem {t : Term} {terms : List Term}
    (h : (terms.map (·.keyword)).Nodup) (ht : t ∈ terms) : replaceOrAppend t terms = terms := by
  induction terms with
  | nil => exact absurd ht List.not_mem_nil
  | cons u rest ih =>
    rw [List.map_cons, List.nodup_cons] at h
    rw [replaceOrAppend]
    rcases List.mem_cons.1 ht with rfl | ht
    · rw [if_pos rfl]
    · have hne : u.keyword ≠ t.keyword := fun hu => h.1 (hu ▸ List.mem_map_of_mem ht)
      rw [if_neg hne, ih h.2 ht]

/-! ## Terms in a filter -/

theorem rival?_ne_self (k : String) : Keyword.rival? k ≠ some k := by
  intro h
  rcases rival?_eq_some h with ⟨rfl, h⟩ | ⟨rfl, h⟩ <;> exact absurd h (by decide)

variable {f : Filter} {t u : Term}

/-! The terms of one kind, the keyword being of this kind or of the other. -/

theorem filter_insert_of_true {p : Term → Bool} (h : ∀ u, u.keyword = t.keyword → p u = true)
    (f : Filter) :
    (f.insert t).terms.filter p =
      replaceOrAppend t (withoutRival t.keyword (f.terms.filter p)) := by
  rw [insert, filter_replaceOrAppend h, filter_withoutRival]

theorem filter_insert_of_false {p : Term → Bool} (h : ∀ u, u.keyword = t.keyword → p u = false)
    (f : Filter) :
    (f.insert t).terms.filter p = withoutRival t.keyword (f.terms.filter p) := by
  rw [insert, filter_replaceOrAppend_of_false h, filter_withoutRival]

theorem insert_insert (h : u.keyword = t.keyword) (f : Filter) :
    (f.insert u).insert t = f.insert t := by
  have hself : Keyword.rival? t.keyword ≠ some u.keyword := h ▸ rival?_ne_self u.keyword
  rw [insert, insert, insert, withoutRival_replaceOrAppend hself,
    replaceOrAppend_replaceOrAppend h, h, withoutRival_idem]

theorem insert_comm (ht : t.keyword ∈ f.keywords) (h : u.keyword ≠ t.keyword)
    (hrival : Keyword.rival? t.keyword ≠ some u.keyword) :
    (f.insert u).insert t = (f.insert t).insert u := by
  have hrival' : Keyword.rival? u.keyword ≠ some t.keyword := fun h' => hrival (rival?_comm.1 h')
  have hplace : t.keyword ∈ (withoutRival t.keyword (withoutRival u.keyword f.terms)).map
      (·.keyword) := by
    obtain ⟨v, hv, hkey⟩ := mem_keywords.1 ht
    refine List.mem_map.2 ⟨v, mem_withoutRival.2 ⟨mem_withoutRival.2 ⟨hv, ?_⟩, ?_⟩, hkey⟩
    · rwa [hkey]
    · rw [hkey]
      exact rival?_ne_self t.keyword
  rw [insert, insert, insert, insert, withoutRival_replaceOrAppend hrival,
    withoutRival_replaceOrAppend hrival', withoutRival_comm u.keyword,
    replaceOrAppend_comm h hplace]

theorem WellFormed.insert_of_mem (hf : f.WellFormed) (ht : t ∈ f.terms) : f.insert t = f := by
  rw [Filter.insert, withoutRival_of_not_mem fun u hu => hf.rival_not_mem ht hu,
    replaceOrAppend_of_mem hf.distinct ht]

/-! ## Lists of terms -/

theorem WellFormed.foldl_insert_of_subset (hf : f.WellFormed) {terms : List Term}
    (h : ∀ t ∈ terms, t ∈ f.terms) : terms.foldl Filter.insert f = f := by
  induction terms with
  | nil => rfl
  | cons t rest ih =>
    rw [List.foldl_cons, hf.insert_of_mem (h t List.mem_cons_self),
      ih fun u hu => h u (List.mem_cons_of_mem t hu)]

theorem insert_foldl_comm (ht : t.keyword ∈ f.keywords) {terms : List Term}
    (h : ∀ u ∈ terms, u.keyword ≠ t.keyword ∧ Keyword.rival? t.keyword ≠ some u.keyword) :
    (terms.foldl insert f).insert t = terms.foldl insert (f.insert t) := by
  induction terms generalizing f with
  | nil => rfl
  | cons u rest ih =>
    obtain ⟨hu, hrival⟩ := h u List.mem_cons_self
    have hkept : t.keyword ∈ (f.insert u).keywords :=
      mem_keywords_insert.2 (.inr ⟨ht, fun h' => hrival (rival?_comm.1 h')⟩)
    rw [List.foldl_cons, List.foldl_cons, ih hkept fun v hv => h v (List.mem_cons_of_mem u hv),
      insert_comm ht hu hrival]

/-- A term may be put in its place in the list or after it, unless a rival is in the list: that
would be gone by then. -/
theorem foldl_insert_replaceOrAppend {terms : List Term} (hdistinct : (terms.map (·.keyword)).Nodup)
    (hrival : ∀ u ∈ terms, Keyword.rival? t.keyword ≠ some u.keyword) (f : Filter) :
    (replaceOrAppend t terms).foldl insert f = (terms.foldl insert f).insert t := by
  induction terms generalizing f with
  | nil => rfl
  | cons u rest ih =>
    rw [List.map_cons, List.nodup_cons] at hdistinct
    have hrest : ∀ v ∈ rest, Keyword.rival? t.keyword ≠ some v.keyword :=
      fun v hv => hrival v (List.mem_cons_of_mem u hv)
    rw [replaceOrAppend, List.foldl_cons]
    split
    · rename_i hu
      have hother : ∀ v ∈ rest, v.keyword ≠ t.keyword ∧
          Keyword.rival? t.keyword ≠ some v.keyword :=
        fun v hv => ⟨fun hvt => hdistinct.1 (hu ▸ hvt ▸ List.mem_map_of_mem hv), hrest v hv⟩
      have hplace : t.keyword ∈ (f.insert u).keywords := mem_keywords_insert.2 (.inl hu.symm)
      rw [List.foldl_cons, insert_foldl_comm hplace hother, insert_insert hu]
    · rw [List.foldl_cons, ih hdistinct.2 hrest]

end ListView.Filter
