import ListView.Proofs.Filter.Completion

/-!
# Typed settings read back

A page size, a sort, a choice of levels and the request for the whole list are
written as texts. Asked for afterwards, each comes back as it was set: numbers by
their decimal digits, levels by their codes, of which only the first of each kind
is kept (`levels_setLevels`). The same holds after the filter was printed and
read, as the terms that are put in are plain (`readBack_of_reachable`).
-/

namespace ListView

/-! ## Levels and their codes -/

namespace Severity

theorem distinct_concat (levels : List Severity) (level : Severity) :
    distinct (levels ++ [level]) =
      if (distinct levels).contains level then distinct levels
      else distinct levels ++ [level] := by
  rw [distinct, List.foldl_concat]
  rfl

theorem distinct_distinct (levels : List Severity) :
    distinct (distinct levels) = distinct levels := by
  induction levels using List.reverseRecOn with
  | nil => rfl
  | append_singleton levels level ih =>
    rw [distinct_concat]
    split
    · exact ih
    · rename_i hnew
      rw [distinct_concat, ih, if_neg hnew]

/-- The first of each level stays. -/
theorem distinct_eq_eraseDups (levels : List Severity) : distinct levels = levels.eraseDups := by
  induction levels using List.reverseRecOn with
  | nil => rfl
  | append_singleton levels level ih =>
    rw [distinct_concat, ih, List.eraseDups_append]
    by_cases h : level ∈ levels <;> simp [h, List.removeAll, List.eraseDups_cons]

/-- The codes of levels select these levels. -/
theorem ofCodes_codes (levels : List Severity) : ofCodes (codes levels) = distinct levels := by
  have hcode : ofCode? ∘ code = some := funext ofCode?_code
  rw [ofCodes, codes, String.toList_ofList, List.filterMap_map, hcode, List.filterMap_some,
    distinct_distinct]

end Severity

namespace Filter

variable {f : Filter}

theorem normal_levels : Term.NormalKeyword Keyword.levels := normal_presentation _ (by decide)

theorem find?_setLevels_nil (f : Filter) : (f.setLevels []).find? Keyword.levels = none := by
  rw [setLevels, if_pos List.isEmpty_nil, find?_delete, normal_levels.2, if_pos rfl]

theorem levels_setLevels (f : Filter) (levels : List Severity) :
    (f.setLevels levels).levels = levels.eraseDups := by
  rw [Filter.levels, get?_of_normal normal_levels]
  cases levels with
  | nil => rw [find?_setLevels_nil]; rfl
  | cons level rest =>
    rw [setLevels, List.isEmpty_cons, if_neg Bool.false_ne_true, set_of_normal normal_levels,
      find?_insert, if_pos rfl, Option.map_some, Option.getD_some, Severity.ofCodes_codes,
      Severity.distinct_eq_eraseDups]

/-- The levels of a filter are without repetitions. -/
theorem eraseDups_levels (f : Filter) : f.levels.eraseDups = f.levels := by
  rw [← Severity.distinct_eq_eraseDups, levels, Severity.ofCodes, Severity.distinct_distinct]

/-! ## Sort -/

theorem normal_keyword (order : SortOrder) : Term.NormalKeyword order.keyword := by
  cases order with
  | ascending => exact normal_sort
  | descending => exact normal_sortReverse

theorem find?_sort (f : Filter) (field : String) (order : SortOrder) (k : String) :
    (f.sort field order).find? k =
      if order.keyword = k then some ⟨order.keyword, .equal, field⟩
      else if Keyword.rival? order.keyword = some k then none
      else f.find? k := by
  rw [sort, set_of_normal (normal_keyword order), find?_insert]

theorem sortBy?_sort (f : Filter) (field : String) (order : SortOrder) :
    (f.sort field order).sortBy? = some field := by
  rw [sortBy?, get?_of_normal normal_sort, get?_of_normal normal_sortReverse, find?_sort,
    find?_sort]
  cases order <;> rfl

/-- The other direction, if the filter had it, is gone. -/
theorem sortOrder_sort (f : Filter) (field : String) (order : SortOrder) :
    (f.sort field order).sortOrder = order := by
  rw [sortOrder, has_of_normal normal_sort, has_of_normal normal_sortReverse, find?_sort,
    find?_sort]
  cases order <;> rfl

/-! ## The whole list -/

theorem all_eq (f : Filter) : f.all = (f.withFirst 1).withRows (-1) := rfl

theorem rows_all (f : Filter) : f.all.rows.value = some (-1) := by
  rw [all_eq, rows_withRows _ (by decide) (by decide)]

theorem first_all (f : Filter) : f.all.first.value = some 1 := by
  rw [all_eq, first_withRows, first_withFirst f (by decide) (by decide)]

/-! ## Through a view of the filter -/

/-- What is set in `f` is what is found, if one looks at the result through `view`. -/
structure ReadBack (f : Filter) (view : Filter → Filter) : Prop where
  rows : ∀ n : Int, -2 ^ 63 ≤ n → n ≤ 2 ^ 63 - 1 → (view (f.withRows n)).rows.value = some n
  sort : ∀ field order, (view (f.sort field order)).sortBy? = some field ∧
    (view (f.sort field order)).sortOrder = order
  levels : ∀ levels, (view (f.setLevels levels)).levels = levels.eraseDups
  noLevels : ∀ t ∈ (view (f.setLevels [])).terms, t.keyword ≠ Keyword.levels
  sameLevels : (view (f.setLevels f.levels)).levels = f.levels
  all : (view f.all).rows.value = some (-1) ∧ (view f.all).first.value = some 1

/-- It is enough that the view changes no term, whatever it does to their order. -/
theorem readBack_of_alike {view : Filter → Filter}
    (hrows : ∀ n, (view (f.withRows n)).Alike (f.withRows n))
    (hsort : ∀ field order, (view (f.sort field order)).Alike (f.sort field order))
    (hlevels : ∀ levels, (view (f.setLevels levels)).Alike (f.setLevels levels))
    (hall : (view f.all).Alike f.all) : ReadBack f view where
  rows n hlow hhigh := by
    rw [(hrows n).rows, rows_withRows f hlow hhigh]
  sort field order := by
    rw [(hsort field order).sortBy?, (hsort field order).sortOrder]
    exact ⟨sortBy?_sort f field order, sortOrder_sort f field order⟩
  levels levels := by
    rw [(hlevels levels).levels, levels_setLevels]
  noLevels t ht hkey := by
    have hnone := find?_setLevels_nil f
    rw [← hlevels [] Keyword.levels, find?, List.find?_eq_none] at hnone
    exact hnone t ht (decide_eq_true hkey)
  sameLevels := by
    rw [(hlevels f.levels).levels, levels_setLevels, eraseDups_levels]
  all := by
    rw [hall.rows, hall.first]
    exact ⟨rows_all f, first_all f⟩

/-! ## Plain terms -/

section Plain

variable (hf : ∀ t ∈ f.terms, t.Plain)

include hf

theorem plain_set {k : String} (hk : k ∈ Keyword.presentation) (v : String) :
    ∀ t ∈ (f.set k v).terms, t.Plain := by
  intro t ht
  rw [set_of_normal (normal_presentation k hk)] at ht
  rcases mem_of_mem_insert ht with rfl | ht
  · exact Term.plain_presentation hk v
  · exact hf t ht

theorem plain_sort (field : String) (order : SortOrder) :
    ∀ t ∈ (f.sort field order).terms, t.Plain := by
  have hk : order.keyword ∈ Keyword.presentation := by cases order <;> decide
  exact plain_set hf hk field

theorem plain_setLevels (levels : List Severity) : ∀ t ∈ (f.setLevels levels).terms, t.Plain := by
  unfold setLevels
  split
  · exact fun t ht => hf t (List.mem_filter.1 ht).1
  · exact plain_set hf (by decide) _

end Plain

/-- What is set is read back from the filter, and if its terms are plain, also from its print. -/
theorem readBack_of_reachable (hf : Reachable f) :
    ReadBack f id ∧ ((∀ t ∈ f.terms, t.Plain) → ReadBack f fun g => ofString g.print) := by
  have hwf := hf.wellFormed
  constructor
  · exact readBack_of_alike (fun _ _ => rfl) (fun _ _ _ => rfl) (fun _ _ => rfl) fun _ => rfl
  · intro hp
    apply readBack_of_alike
    · intro n
      exact alike_ofString_print (hwf.withRows n) (plain_set hp (by decide) _)
    · intro field order
      exact alike_ofString_print (hwf.sort field order) (plain_sort hp field order)
    · intro levels
      exact alike_ofString_print (hwf.setLevels levels) (plain_setLevels hp levels)
    · exact alike_ofString_print hwf.all (plain_set (plain_set hp (by decide) _) (by decide) _)

/-- The least number of 64 bits, a sort turned around by a field with quotes and blanks, and levels
that come again. -/
theorem readBack_of_reachable_quoted :
    let f := ofString "levels=Xfgf sort=name rows=5 tag~\"a b\" size<9"
    Reachable f ∧ (∀ t ∈ f.terms, t.Plain) ∧
      (ofString (f.withRows (-2 ^ 63)).print).rows.value = some (-2 ^ 63) ∧
      (f.sort "\"a\\\tb" .descending).print =
        "levels=Xfgf tag~\"a b\" size<9 sort-reverse=\"\\\"a\\\\\tb\" rows=5" ∧
      (ofString (f.sort "\"a\\\tb" .descending).print).sortBy? = some "\"a\\\tb" ∧
      (ofString (f.sort "\"a\\\tb" .descending).print).sortOrder = .descending ∧
      (ofString (f.setLevels [.low, .high, .low, .log, .high]).print).levels =
        [.low, .high, .log] ∧
      (∀ t ∈ (ofString (f.setLevels []).print).terms, t.keyword ≠ Keyword.levels) ∧
      f.levels = [.falsePositive, .log] ∧
      (ofString (f.setLevels f.levels).print).levels = f.levels ∧
      (ofString f.all.print).rows.value = some (-1) := by
  intro f
  have hf : Reachable f := .ofString _
  have hp : ∀ t ∈ f.terms, t.Plain := by decide +kernel
  have hread := (readBack_of_reachable hf).2 hp
  obtain ⟨hby, horder⟩ := hread.sort "\"a\\\tb" .descending
  refine ⟨hf, hp, hread.rows _ (by decide) (by decide), by decide +kernel, hby, horder, ?_,
    hread.noLevels, by decide +kernel, hread.sameLevels, hread.all.1⟩
  rw [hread.levels]
  decide

end Filter

end ListView
