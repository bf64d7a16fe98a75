import ListView.Proofs.Filter.Equality
import ListView.Proofs.Filter.Insert

/-!
# Setting and deleting a keyword

A keyword that a filter has is set in its place; any other one comes to the end,
and the other direction of a sort goes (`insert_of_mem_keywords`,
`insert_of_not_mem_keywords`). From these two equations and the look-up after an
insertion follow the laws of setting and deleting (`settingLaws_of_reachable`).
-/

namespace ListView

/-- The two directions of a sort, in either order. -/
def Keyword.SortPair (k l : String) : Prop :=
  k = sort ∧ l = sortReverse ∨ k = sortReverse ∧ l = sort

instance (k l : String) : Decidable (Keyword.SortPair k l) :=
  inferInstanceAs (Decidable ((_ ∧ _) ∨ (_ ∧ _)))

namespace Filter

open Text

variable {f : Filter} {t u : Term}

theorem rival?_eq_some_iff {k l : String} :
    Keyword.rival? k = some l ↔ Keyword.SortPair k l := by
  constructor
  · exact rival?_eq_some
  · rintro (⟨rfl, rfl⟩ | ⟨rfl, rfl⟩) <;> rfl

/-! ## The place of a term -/

theorem withoutRival_eq_filter (k : String) (terms : List Term) :
    withoutRival k terms = terms.filter fun t => ¬ Keyword.SortPair k t.keyword := by
  unfold withoutRival
  split
  · rename_i rival hrival
    refine List.filter_congr fun t _ => decide_eq_decide.2 ?_
    rw [← rival?_eq_some_iff, hrival, Option.some.injEq]
    exact not_congr eq_comm
  · rename_i hrival
    refine (List.filter_eq_self.2 fun t _ => ?_).symm
    rw [decide_eq_true_eq]
    intro hpair
    rw [rival?_eq_some_iff.2 hpair] at hrival
    cases hrival

/-- Only the term with the keyword is replaced, and stays where it is. -/
theorem exists_set_of_mem {terms : List Term} (h : t.keyword ∈ terms.map (·.keyword)) :
    ∃ i, ∃ hi : i < terms.length,
      terms[i].keyword = t.keyword ∧ replaceOrAppend t terms = terms.set i t := by
  induction terms with
  | nil => exact absurd h List.not_mem_nil
  | cons u rest ih =>
    by_cases hu : u.keyword = t.keyword
    · exact ⟨0, Nat.zero_lt_succ _, hu, by rw [replaceOrAppend, if_pos hu, List.set_cons_zero]⟩
    · obtain ⟨i, hi, hkey, hset⟩ := ih ((List.mem_cons.1 h).resolve_left (Ne.symm hu))
      refine ⟨i + 1, Nat.succ_lt_succ hi, hkey, ?_⟩
      rw [replaceOrAppend, if_neg hu, hset, List.set_cons_succ]

theorem insert_of_mem_keywords (hf : f.WellFormed) (h : t.keyword ∈ f.keywords) :
    (f.insert t).terms = replaceOrAppend t f.terms := by
  rw [insert, withoutRival_of_not_mem fun u hu =>
    rival?_ne_of_mem hf.oneSort h (mem_keywords_of_mem hu)]

theorem insert_of_not_mem_keywords (h : t.keyword ∉ f.keywords) :
    (f.insert t).terms =
      (f.terms.filter fun u => ¬ Keyword.SortPair t.keyword u.keyword) ++ [t] := by
  rw [insert, replaceOrAppend_of_not_mem, withoutRival_eq_filter]
  exact fun hmem => h (((withoutRival_sublist _ _).map _).subset hmem)

/-! ## Deleting what was put in -/

/-- The other direction of a sort does not come back. -/
theorem delete_insert (f : Filter) {keyword : String}
    (h : Term.normalizeKeyword keyword = t.keyword) :
    ((f.insert t).delete keyword).terms =
      f.terms.filter fun u => u.keyword ≠ t.keyword ∧ ¬ Keyword.SortPair t.keyword u.keyword := by
  have hgone : ∀ u : Term, u.keyword = t.keyword → decide (u.keyword ≠ t.keyword) = false :=
    fun u hu => by simp [hu]
  rw [delete, h, filter_insert_of_false hgone, withoutRival_eq_filter, List.filter_filter]
  refine List.filter_congr fun u _ => ?_
  rw [← Bool.decide_and]
  exact decide_eq_decide.2 and_comm

/-! ## The order of two settings -/

theorem insert_comm_alike (h : u.keyword ≠ t.keyword)
    (hpair : ¬ Keyword.SortPair t.keyword u.keyword) (f : Filter) :
    ((f.insert t).insert u).Alike ((f.insert u).insert t) := by
  have htu : Keyword.rival? t.keyword ≠ some u.keyword := fun hr => hpair (rival?_eq_some_iff.1 hr)
  have hut : Keyword.rival? u.keyword ≠ some t.keyword := fun hr => htu (rival?_comm.1 hr)
  intro k
  simp only [find?_insert]
  by_cases ht : t.keyword = k
  · subst ht
    rw [if_neg h, if_neg hut, if_pos rfl, if_pos rfl]
  · by_cases hu : u.keyword = k
    · subst hu
      rw [if_pos rfl, if_neg ht, if_neg htu, if_pos rfl]
    · simp only [if_neg ht, if_neg hu]
      split <;> split <;> rfl

/-! ## Keywords in any spelling -/

section Spelling

variable {keyword n : String} (hn : Term.normalizeKeyword keyword = n)

include hn

theorem setWith_of_normalized (hne : n ≠ "") (f : Filter) (r : Relation) (value : String) :
    f.setWith keyword r value = f.insert ⟨n, r, value⟩ := by
  subst hn
  have hmake : Term.make? keyword.toList r value.toList =
      some ⟨Term.normalizeKeyword keyword, r, value⟩ := by
    rw [Term.make?_eq_some_iff, String.ofList_toList]
    exact ⟨by simpa [Term.normalizeKeyword] using hne, rfl⟩
  rw [setWith, hmake]

theorem normalize_of_normalized : Term.normalizeKeyword n = n := by
  rw [← hn, Term.normalizeKeyword_idem]

end Spelling

theorem setWith_of_blank {keyword : String} (h : allBlank keyword = true) (f : Filter)
    (r : Relation) (value : String) : f.setWith keyword r value = f := by
  have hnil : Term.normalKeyword keyword.toList = [] :=
    Term.normalKeyword_eq_nil_iff.2 (List.all_eq_true.1 h)
  rw [setWith, Term.make?, hnil]
  rfl

/-- The term that is put in is found, the other direction of a sort is not. -/
theorem term?_insert (f : Filter) (t : Term) (m : String) :
    (f.insert t).term? m =
      if t.keyword = Term.normalizeKeyword m then some t
      else if Keyword.SortPair t.keyword (Term.normalizeKeyword m) then none
      else f.term? m := by
  rw [term?, find?_insert]
  simp only [rival?_eq_some_iff]
  rfl

/-! ## The laws -/

/-- What `g` is after `keyword`, whose normal form is `n`, was set in `f`. -/
structure SettingLaws (f : Filter) (keyword : String) (r : Relation) (value n : String)
    (g : Filter) : Prop where
  found : g.term? n = some ⟨n, r, value⟩
  others : ∀ m, Term.normalizeKeyword m ≠ n →
    g.term? m = if Keyword.SortPair n (Term.normalizeKeyword m) then none else f.term? m
  replaced : f.has n = true → ∃ i, ∃ hi : i < f.terms.length,
    f.terms[i].keyword = n ∧ g.terms = f.terms.set i ⟨n, r, value⟩
  appended : f.has n = false →
    g.terms = (f.terms.filter fun t => ¬ Keyword.SortPair n t.keyword) ++ [⟨n, r, value⟩]
  overwritten : ∀ r' value',
    (g.setWith keyword r' value').terms = (f.setWith keyword r' value').terms
  deleted : (g.delete keyword).terms =
    f.terms.filter fun t => t.keyword ≠ n ∧ ¬ Keyword.SortPair n t.keyword
  commutes : ∀ l r' value', Term.normalizeKeyword l ≠ n →
    ¬ Keyword.SortPair n (Term.normalizeKeyword l) →
    (g.setWith l r' value' == (f.setWith l r' value').setWith keyword r value) = true

theorem settingLaws_insert (hf : f.WellFormed) {keyword n : String}
    (hn : Term.normalizeKeyword keyword = n) (hne : n ≠ "") (r : Relation) (value : String) :
    SettingLaws f keyword r value n (f.insert ⟨n, r, value⟩) where
  found := by rw [term?_insert, normalize_of_normalized hn, if_pos rfl]
  others := by
    intro m hm
    rw [term?_insert, if_neg (Ne.symm hm)]
  replaced := by
    intro h
    rw [has_iff_mem_keywords, normalize_of_normalized hn] at h
    rw [insert_of_mem_keywords hf h]
    exact @exists_set_of_mem ⟨n, r, value⟩ _ h
  appended := by
    intro h
    rw [insert_of_not_mem_keywords]
    intro hmem
    rw [← normalize_of_normalized hn, ← has_iff_mem_keywords, h] at hmem
    cases hmem
  overwritten := by
    intro r' value'
    have hkey : (⟨n, r, value⟩ : Term).keyword = (⟨n, r', value'⟩ : Term).keyword := rfl
    rw [setWith_of_normalized hn hne, setWith_of_normalized hn hne, insert_insert hkey]
  deleted := delete_insert f hn
  commutes := by
    intro l r' value' hl hpair
    have hwf := hf.insert (t := ⟨n, r, value⟩) ⟨hne, normalize_of_normalized hn⟩
    refine (beq_iff_alike (hwf.setWith l r' value')
      ((hf.setWith l r' value').setWith keyword r value)).2 ?_
    rw [setWith_of_normalized hn hne]
    by_cases hblank : Term.normalizeKeyword l = ""
    · have hsame := setWith_of_blank (Term.normalizeKeyword_eq_empty_iff.1 hblank)
      rw [hsame, hsame]
      exact fun _ => rfl
    · rw [setWith_of_normalized rfl hblank, setWith_of_normalized rfl hblank]
      exact insert_comm_alike (t := ⟨n, r, value⟩) (u := ⟨_, r', value'⟩) hl hpair f

/-- The laws of setting, for a keyword of which something is left in its normal form; one of blanks
changes nothing. -/
theorem settingLaws_of_reachable (hf : Reachable f) (keyword : String) (r : Relation)
    (value : String) :
    (Term.normalizeKeyword keyword ≠ "" →
      SettingLaws f keyword r value (Term.normalizeKeyword keyword)
        (f.setWith keyword r value)) ∧
    (allBlank keyword = true → (f.setWith keyword r value).terms = f.terms) := by
  constructor
  · intro hne
    rw [setWith_of_normalized rfl hne]
    exact settingLaws_insert hf.wellFormed rfl hne r value
  · intro hblank
    rw [setWith_of_blank hblank]

/-- A sort turned around under another spelling of its keyword, a term replaced in its place, and a
blank keyword. -/
theorem settingLaws_of_reachable_reversed :
    let f := ofString "SORT=id GRÖSSE>1 ROWS=5"
    let g := f.setWith " SORT-REVERSE" .approx "a b"
    Reachable f ∧ Term.normalizeKeyword " SORT-REVERSE" = "sort-reverse" ∧
      g.term? "sort-reverse" = some ⟨"sort-reverse", .approx, "a b"⟩ ∧ g.term? "SORT" = none ∧
      g.terms =
        [⟨"grösse", .greater, "1"⟩, ⟨"rows", .equal, "5"⟩, ⟨"sort-reverse", .approx, "a b"⟩] ∧
      (g.delete " SORT-REVERSE").terms = [⟨"grösse", .greater, "1"⟩, ⟨"rows", .equal, "5"⟩] ∧
      (g.setWith "\tGRÖSSE" .less "=7" ==
        (f.setWith "\tGRÖSSE" .less "=7").setWith " SORT-REVERSE" .approx "a b") = true ∧
      (∃ i, ∃ hi : i < f.terms.length, f.terms[i].keyword = "grösse" ∧
        (f.setWith "\tGRÖSSE" .less "=7").terms = f.terms.set i ⟨"grösse", .less, "=7"⟩) ∧
      (f.setWith "\u3000" .less "=7").terms = f.terms := by
  intro f g
  have hf : Reachable f := .ofString _
  have hreverse : Term.normalizeKeyword " SORT-REVERSE" = "sort-reverse" := by decide +kernel
  have hsize : Term.normalizeKeyword "\tGRÖSSE" = "grösse" := by decide +kernel
  have hlaws := (settingLaws_of_reachable hf " SORT-REVERSE" .approx "a b").1 (by decide +kernel)
  have hlaws' := (settingLaws_of_reachable hf "\tGRÖSSE" .less "=7").1 (by decide +kernel)
  rw [hreverse] at hlaws
  rw [hsize] at hlaws'
  refine ⟨hf, hreverse, hlaws.found, ?_, ?_, ?_, hlaws.commutes _ _ _ ?_ ?_,
    hlaws'.replaced (by decide +kernel),
    (settingLaws_of_reachable hf "\u3000" .less "=7").2 (by decide +kernel)⟩
  · rw [hlaws.others "SORT" (by decide +kernel), if_pos (by decide +kernel)]
  · rw [hlaws.appended (by decide +kernel)]
    decide +kernel
  · rw [hlaws.deleted]
    decide +kernel
  · decide +kernel
  · decide +kernel

end Filter

end ListView
