import ListView.Proofs.Filter.Completion
import ListView.Settings.Basic

/-!
# Resolved filters

The default filter of settings always has a page size (`rows_filter`). What a
text is resolved to has all that could be taken from the default filter
(`complete_resolve`), so that resolving its print gives it again
(`resolve_print_of_complete`), and the terms of the text come first.
-/

namespace ListView.Settings

open Text

variable {s : Settings} {q : Filter} {text : String}

/-! ## Page sizes of settings -/

/-- The page size is one that settings may have, and a number of 64 bits. -/
theorem rowsPerPage_ofEntries (entries : List (String × String)) :
    validRows (ofEntries entries).rowsPerPage = true ∧
      (ofEntries entries).rowsPerPage ≤ Decimal.maxInt := by
  simp only [ofEntries]
  cases hread : ((entries.lookup "rows_per_page").bind fun raw =>
      Decimal.readInt (trim raw.toList)).filter validRows with
  | none => exact ⟨by decide, by decide⟩
  | some n =>
    obtain ⟨hbind, hvalid⟩ := Option.filter_eq_some_iff.1 hread
    obtain ⟨raw, -, hn⟩ := Option.bind_eq_some_iff.1 hbind
    exact ⟨hvalid, (Decimal.readInt_bounds hn).2⟩

theorem validRows_iff {n : Int} : validRows n = true ↔ n = -1 ∨ 0 < n := by
  simp [validRows]

/-! ## The default filter -/

theorem value_filter (s : Settings) :
    s.filter.value =
      if (Filter.ofString s.defaultFilter).rows.value.isSome then Filter.ofString s.defaultFilter
      else (Filter.ofString s.defaultFilter).withRows s.rowsPerPage := rfl

theorem wellFormed_filter (s : Settings) : s.filter.value.WellFormed := by
  have hread := Filter.WellFormed.ofString s.defaultFilter
  rw [value_filter]
  split
  · exact hread
  · exact hread.withRows s.rowsPerPage

/-- The page size is that of the default text, if it has one that is a number. -/
theorem rows_filter (hlow : Decimal.minInt ≤ s.rowsPerPage)
    (hhigh : s.rowsPerPage ≤ Decimal.maxInt) :
    s.filter.value.rows.value =
      some ((Filter.ofString s.defaultFilter).rows.value.getD s.rowsPerPage) := by
  rw [value_filter]
  cases hrows : (Filter.ofString s.defaultFilter).rows.value with
  | none =>
    rw [Option.isSome_none, if_neg Bool.false_ne_true, Filter.rows_withRows _ hlow hhigh,
      Option.getD_none]
  | some n =>
    rw [Option.isSome_some, if_pos rfl, hrows, Option.getD_some]

theorem has_rows_filter (s : Settings) : s.filter.value.has Keyword.rows = true := by
  rw [Filter.has_of_normal Filter.normal_rows, value_filter]
  split
  · rename_i hrows
    rw [Filter.value_rows] at hrows
    obtain ⟨n, hn⟩ := Option.isSome_iff_exists.1 hrows
    obtain ⟨t, ht, -⟩ := Option.bind_eq_some_iff.1 hn
    rw [ht]
    rfl
  · rw [Filter.withRows_eq, Filter.find?_insert, if_pos rfl]
    rfl

/-! ## The filter of a text -/

theorem resolve_of_allBlank (h : allBlank text = true) (s : Settings) :
    s.resolve (some text) = s.filter := by
  rw [resolve, if_pos h]

theorem value_resolve (h : allBlank text = false) (s : Settings) :
    (s.resolve (some text)).value =
      (Filter.ofString text).mergePresentation s.filter.value := by
  rw [resolve, h, if_neg Bool.false_ne_true, Logged.value_bind, Logged.value_bind,
    Logged.value_pure, Filter.ofString]

theorem allBlank_eq_false_iff : allBlank text = false ↔ ∃ c ∈ text.toList, isBlank c = false := by
  simp [allBlank]

/-- What `resolved` is, the user's filter `own` completed from the default filter. -/
structure Resolved (default own resolved : Filter) : Prop where
  kept : own.terms <+: resolved.terms
  taken : ∀ t ∈ resolved.terms, t ∈ own.terms ∨
    t ∈ default.terms ∧ t.keyword ∈ Keyword.presentation ∧ own.has t.keyword = false
  completed : resolved.terms =
    own.terms ++ Keyword.presentation.filterMap (Filter.addition? default own)
  rows : own.has Keyword.rows = false → resolved.rows.value = default.rows.value

theorem resolved_mergePresentation {default : Filter} (h : default.WellFormed) (own : Filter) :
    Resolved default own (own.mergePresentation default) where
  kept := ⟨_, (Filter.terms_mergePresentation h own).symm⟩
  taken := by
    intro t ht
    rw [Filter.terms_mergePresentation h, List.mem_append, List.mem_filterMap] at ht
    refine ht.imp_right ?_
    rintro ⟨k, hk, hadd⟩
    obtain ⟨hlacks, hfind⟩ := Filter.addition?_eq_some_iff.1 hadd
    obtain ⟨hmem, rfl⟩ := h.find?_eq_some_iff.1 hfind
    refine ⟨hmem, hk, ?_⟩
    rw [Filter.lacks, Bool.and_eq_true, Bool.not_eq_true'] at hlacks
    exact hlacks.1
  completed := Filter.terms_mergePresentation h own
  rows := by
    intro hnone
    rw [Filter.rows_mergePresentation, hnone, if_neg Bool.false_ne_true]

/-! ## Resolving once more -/

/-- A filter to which the default filter has nothing to add. -/
structure Complete (default q : Filter) : Prop where
  wellFormed : q.WellFormed
  settled : (q.mergePresentation default).terms = q.terms
  rows : q.has Keyword.rows = true

theorem complete_resolve (s : Settings) (text : Option String) :
    Complete s.filter.value (s.resolve text).value := by
  have hdefault := s.wellFormed_filter
  have hself : Complete s.filter.value s.filter.value :=
    ⟨hdefault, Filter.mergePresentation_self hdefault, s.has_rows_filter⟩
  cases text with
  | none => exact hself
  | some text =>
    cases hblank : allBlank text with
    | true =>
      rw [resolve_of_allBlank hblank]
      exact hself
    | false =>
      have hrows := s.has_rows_filter
      rw [value_resolve hblank]
      refine ⟨(Filter.WellFormed.ofString text).mergePresentation _,
        Filter.mergePresentation_twice hdefault _, ?_⟩
      rw [Filter.has_of_normal Filter.normal_rows] at hrows ⊢
      rw [Filter.find?_mergePresentation rfl, if_pos (by decide), Option.isSome_or, hrows,
        Bool.or_true]

theorem Complete.terms_ne_nil {default : Filter} (h : Complete default q) : q.terms ≠ [] := by
  intro hnil
  obtain ⟨t, ht, -⟩ := Filter.mem_keywords.1 (Filter.has_iff_mem_keywords.1 h.rows)
  rw [hnil] at ht
  cases ht

/-- The print of a complete filter is resolved to this filter. -/
theorem resolve_print_of_complete (h : Complete s.filter.value q) (hp : ∀ t ∈ q.terms, t.Plain) :
    ((s.resolve (some q.print)).value == q) = true := by
  have halike := Filter.alike_ofString_print h.wellFormed hp
  have hread := Filter.WellFormed.ofString q.print
  have hnotBlank : allBlank q.print = false := by
    refine Bool.eq_false_iff.2 fun hblank => h.terms_ne_nil ?_
    have hperm := (Filter.alike_iff_perm hread h.wellFormed).1 halike
    rw [Filter.ofString_of_allBlank hblank] at hperm
    exact hperm.symm.eq_nil
  have hmerged : ((Filter.ofString q.print).mergePresentation s.filter.value).Alike
      (q.mergePresentation s.filter.value) := halike.mergePresentation fun _ => rfl
  rw [value_resolve hnotBlank]
  refine (Filter.beq_iff_alike (hread.mergePresentation _) h.wellFormed).2 fun k => ?_
  rw [hmerged k, Filter.find?, h.settled, Filter.find?]

/-! ## Settings from entries -/

/-- What the filters of settings are: the default one has a page size, a text is completed from it,
a missing or blank text stands for it, and what was resolved is resolved to itself. -/
structure Resolution (s : Settings) : Prop where
  rowsPerPage : s.rowsPerPage = -1 ∨ 0 < s.rowsPerPage
  rows : s.filter.value.rows.value =
    some ((Filter.ofString s.defaultFilter).rows.value.getD s.rowsPerPage)
  completed : ∀ text, (∃ c ∈ text.toList, isBlank c = false) →
    Resolved s.filter.value (Filter.ofString text) (s.resolve (some text)).value
  missing : s.resolve none = s.filter
  blank : ∀ text, (∀ c ∈ text.toList, isBlank c = true) → s.resolve (some text) = s.filter
  again : ∀ text, (∀ t ∈ (s.resolve text).value.terms, t.Plain) →
    ((s.resolve (some (s.resolve text).value.print)).value == (s.resolve text).value) = true

theorem resolution_ofEntries (entries : List (String × String)) :
    Resolution (ofEntries entries) := by
  obtain ⟨hvalid, hhigh⟩ := rowsPerPage_ofEntries entries
  have hrows := validRows_iff.1 hvalid
  have hlow : Decimal.minInt ≤ (ofEntries entries).rowsPerPage := by
    have hmin : Decimal.minInt = -2 ^ 63 := rfl
    omega
  refine ⟨hrows, rows_filter hlow hhigh, fun text htext => ?_, rfl, fun text htext => ?_,
    fun text hp => resolve_print_of_complete (complete_resolve _ text) hp⟩
  · rw [value_resolve (allBlank_eq_false_iff.2 htext)]
    exact resolved_mergePresentation (wellFormed_filter _) (Filter.ofString text)
  · exact resolve_of_allBlank (List.all_eq_true.2 htext) _

/-- A default text whose page size is no number, and a text that sorts in the other direction. -/
theorem resolution_ofEntries_completed :
    let s := ofEntries [("default_filter", "sort-reverse=id rows=x first=2 t=1"),
      ("rows_per_page", " 25\n")]
    let q := (s.resolve (some "N~\"a b\" sort=id")).value
    s.filter.value.rows.value = some 25 ∧
      q.terms = [⟨"n", .approx, "a b"⟩, ⟨"sort", .equal, "id"⟩, ⟨"first", .equal, "2"⟩,
        ⟨"rows", .equal, "25"⟩] ∧
      q.rows.value = s.filter.value.rows.value ∧
      s.resolve (some "\u3000\t") = s.filter ∧
      (∀ t ∈ q.terms, t.Plain) ∧
      ((s.resolve (some q.print)).value == q) = true := by
  intro s q
  have hs : Resolution s := resolution_ofEntries _
  have hq := hs.completed "N~\"a b\" sort=id" ⟨'N', by decide, by decide⟩
  have hterms : q.terms = [⟨"n", .approx, "a b"⟩, ⟨"sort", .equal, "id"⟩, ⟨"first", .equal, "2"⟩,
      ⟨"rows", .equal, "25"⟩] := by
    rw [hq.completed]
    decide +kernel
  have hp : ∀ t ∈ q.terms, t.Plain := by
    rw [hterms]
    decide +kernel
  have hblank : allBlank "\u3000\t" = true := by decide +kernel
  refine ⟨?_, hterms, hq.rows (by decide +kernel), hs.blank _ (List.all_eq_true.1 hblank), hp,
    hs.again _ hp⟩
  rw [hs.rows]
  decide +kernel

end ListView.Settings
