import ListView.Filter.Presentation
import ListView.Proofs.Decimal.Reader
import ListView.Proofs.Filter.RoundTrip

/-!
# Turning pages

What is looked up after a term was put in (`find?_insert`), and from it what the
page size and the start of a filter are after its page was turned. A request
for a page stays one when the filter is printed, read and turned to the next
page (`PageRequest.next`).
-/

namespace ListView

open Text Token

/-! ## Plain terms -/

/-- A term that is read back, with a keyword that neither ends a token nor opens quotes. -/
structure Term.Plain (t : Term) : Prop where
  keyword : ∀ c ∈ t.keyword.toList,
    Relation.isOperatorChar c = false ∧ isBlank c = false ∧ c ≠ '"'
  unambiguous : ¬ t.Ambiguous

instance (t : Term) : Decidable t.Plain :=
  have : Decidable (∀ c ∈ t.keyword.toList,
      Relation.isOperatorChar c = false ∧ isBlank c = false ∧ c ≠ '"') :=
    List.decidableBAll _ _
  decidable_of_iff ((∀ c ∈ t.keyword.toList,
      Relation.isOperatorChar c = false ∧ isBlank c = false ∧ c ≠ '"') ∧ ¬ t.Ambiguous)
    ⟨fun ⟨hk, hu⟩ => ⟨hk, hu⟩, fun h => ⟨h.keyword, h.unambiguous⟩⟩

theorem Term.Plain.printable {t : Term} (h : t.Plain) : t.Printable where
  operatorFree := fun c hc => (h.keyword c hc).1
  solid := solid_of_forall_not_blank (fun c hc => (h.keyword c hc).2.1) _
  closed := after_of_forall_ne_quote fun c hc => (h.keyword c hc).2.2
  unambiguous := h.unambiguous

/-- A setting of a presentation keyword is plain, whatever its value. -/
theorem Term.plain_presentation {k : String} (hk : k ∈ Keyword.presentation) (v : String) :
    Term.Plain ⟨k, .equal, v⟩ := by
  have hall : ∀ k ∈ Keyword.presentation, Term.Plain ⟨k, .equal, ""⟩ := by decide +kernel
  refine ⟨(hall k hk).keyword, ?_⟩
  rintro ⟨hless | hgreater, -⟩
  · cases hless
  · cases hgreater

namespace Filter

/-! ## Look-up after an edit -/

theorem find?_replaceOrAppend (t : Term) (terms : List Term) (k : String) :
    (replaceOrAppend t terms).find? (·.keyword = k) =
      if t.keyword = k then some t else terms.find? (·.keyword = k) := by
  induction terms with
  | nil =>
    rw [replaceOrAppend, List.find?_cons]
    by_cases ht : t.keyword = k <;> simp [ht]
  | cons u rest ih =>
    rw [replaceOrAppend]
    by_cases hu : u.keyword = t.keyword
    · rw [if_pos hu, List.find?_cons, List.find?_cons, hu]
      by_cases ht : t.keyword = k <;> simp [ht]
    · rw [if_neg hu, List.find?_cons, List.find?_cons, ih]
      by_cases ht : t.keyword = k
      · simp [← ht, hu]
      · simp [ht]

theorem find?_withoutRival (keyword k : String) (terms : List Term) :
    (withoutRival keyword terms).find? (·.keyword = k) =
      if Keyword.rival? keyword = some k then none else terms.find? (·.keyword = k) := by
  unfold withoutRival
  split
  · rename_i rival hrival
    rw [hrival, List.find?_filter]
    by_cases hk : rival = k
    · rw [if_pos (congrArg some hk), List.find?_eq_none]
      intro t _
      simp [hk]
    · rw [if_neg (by simpa using hk)]
      congr 1
      funext t
      by_cases ht : t.keyword = k
      · simp [ht, Ne.symm hk]
      · simp [ht]
  · rename_i hrival
    simp [hrival]

/-- The term that is put in is found, its rival is gone, and nothing else changes. -/
theorem find?_insert (f : Filter) (t : Term) (k : String) :
    (f.insert t).find? k =
      if t.keyword = k then some t
      else if Keyword.rival? t.keyword = some k then none
      else f.find? k := by
  show (replaceOrAppend t (withoutRival t.keyword f.terms)).find? _ = _
  rw [find?_replaceOrAppend, find?_withoutRival]
  rfl

theorem setWith_of_normal {k : String} (h : Term.NormalKeyword k) (f : Filter) (r : Relation)
    (v : String) : f.setWith k r v = f.insert ⟨k, r, v⟩ := by
  rw [setWith, Term.make?_of_normal h, String.ofList_toList]

theorem set_of_normal {k : String} (h : Term.NormalKeyword k) (f : Filter) (v : String) :
    f.set k v = f.insert ⟨k, .equal, v⟩ := setWith_of_normal h f .equal v

theorem term?_of_normal {k : String} (h : Term.NormalKeyword k) (f : Filter) :
    f.term? k = f.find? k := by
  rw [term?, h.2]

theorem get?_of_normal {k : String} (h : Term.NormalKeyword k) (f : Filter) :
    f.get? k = (f.find? k).map (·.value) := by
  rw [get?, term?_of_normal h]

theorem has_of_normal {k : String} (h : Term.NormalKeyword k) (f : Filter) :
    f.has k = (f.find? k).isSome := by
  rw [has, term?_of_normal h]

/-! ## Page size and start -/

theorem normal_first : Term.NormalKeyword Keyword.first := ⟨by decide, by decide +kernel⟩

theorem normal_rows : Term.NormalKeyword Keyword.rows := ⟨by decide, by decide +kernel⟩

theorem normal_sort : Term.NormalKeyword Keyword.sort := ⟨by decide, by decide +kernel⟩

theorem normal_sortReverse : Term.NormalKeyword Keyword.sortReverse :=
  ⟨by decide, by decide +kernel⟩

theorem value_readWhole (keyword raw : String) :
    (readWhole keyword raw).value = Decimal.readInt (trim raw.toList) := by
  unfold readWhole
  cases Decimal.readInt (trim raw.toList) <;> rfl

theorem value_whole {k : String} (h : Term.NormalKeyword k) (f : Filter) :
    (f.whole k).value = (f.find? k).bind fun t => Decimal.readInt (trim t.value.toList) := by
  unfold whole
  rw [get?_of_normal h]
  cases f.find? k with
  | none => rfl
  | some t => exact value_readWhole k t.value

theorem value_rows (f : Filter) :
    f.rows.value = (f.find? Keyword.rows).bind fun t => Decimal.readInt (trim t.value.toList) :=
  value_whole normal_rows f

theorem value_first (f : Filter) :
    f.first.value = ((f.find? Keyword.first).bind fun t =>
      Decimal.readInt (trim t.value.toList)).map fun n => (max n 1).toNat := by
  rw [first, Logged.value_map, value_whole normal_first]

theorem first_bounds {f : Filter} {n : Nat} (h : f.first.value = some n) :
    1 ≤ n ∧ (n : Int) ≤ Decimal.maxInt := by
  have hone : 1 ≤ Decimal.maxInt := by decide
  rw [value_first] at h
  obtain ⟨m, hm, rfl⟩ := Option.map_eq_some_iff.1 h
  obtain ⟨t, -, hread⟩ := Option.bind_eq_some_iff.1 hm
  have hmax := (Decimal.readInt_bounds hread).2
  omega

theorem rows_le_maxInt {f : Filter} {size : Int} (h : f.rows.value = some size) :
    size ≤ Decimal.maxInt := by
  rw [value_rows] at h
  obtain ⟨t, -, hread⟩ := Option.bind_eq_some_iff.1 h
  exact (Decimal.readInt_bounds hread).2

theorem withFirst_eq (f : Filter) (n : Nat) :
    f.withFirst n = f.insert ⟨Keyword.first, .equal, toString n⟩ :=
  set_of_normal normal_first f (toString n)

theorem rows_withFirst (f : Filter) (n : Nat) : (f.withFirst n).rows.value = f.rows.value := by
  have hne : Keyword.first ≠ Keyword.rows := by decide
  have hrival : Keyword.rival? Keyword.first ≠ some Keyword.rows := by decide
  have hfind := find?_insert f ⟨Keyword.first, .equal, toString n⟩ Keyword.rows
  rw [if_neg hne, if_neg hrival] at hfind
  rw [value_rows, value_rows, withFirst_eq, hfind]

/-- A start is read back, unless it has more than 64 bits. -/
theorem value_first_withFirst (f : Filter) {n : Nat} (hpos : 1 ≤ n) :
    (f.withFirst n).first.value = if (n : Int) ≤ Decimal.maxInt then some n else none := by
  rw [value_first, withFirst_eq, find?_insert, if_pos rfl, Option.bind_some,
    Decimal.readInt_trim_toString_eq]
  split
  · rw [Option.map_some]
    congr 1
    omega
  · rfl

theorem first_withFirst (f : Filter) {n : Nat} (hpos : 1 ≤ n) (h : (n : Int) ≤ Decimal.maxInt) :
    (f.withFirst n).first.value = some n := by
  rw [value_first_withFirst f hpos, if_pos h]

theorem withRows_eq (f : Filter) (n : Int) :
    f.withRows n = f.insert ⟨Keyword.rows, .equal, toString n⟩ :=
  set_of_normal normal_rows f (toString n)

/-- A page size of 64 bits is read back. -/
theorem rows_withRows (f : Filter) {n : Int} (hlow : Decimal.minInt ≤ n)
    (hhigh : n ≤ Decimal.maxInt) : (f.withRows n).rows.value = some n := by
  rw [value_rows, withRows_eq, find?_insert, if_pos rfl, Option.bind_some,
    Decimal.readInt_trim_toString_int hlow hhigh]

theorem first_withRows (f : Filter) (n : Int) : (f.withRows n).first.value = f.first.value := by
  have hne : Keyword.rows ≠ Keyword.first := by decide
  have hrival : Keyword.rival? Keyword.rows ≠ some Keyword.first := by decide
  have hfind := find?_insert f ⟨Keyword.rows, .equal, toString n⟩ Keyword.first
  rw [if_neg hne, if_neg hrival] at hfind
  rw [value_first, value_first, withRows_eq, hfind]

/-- The place of the page's first entity: the first of all where the filter does not say. -/
def start (f : Filter) : Nat := f.first.value.getD 1

theorem value_movePage {f : Filter} {size : Int} (hrows : f.rows.value = some size)
    (hsize : 0 < size) (move : Nat → Nat → Nat) :
    (f.movePage move).value = f.withFirst (move size.toNat f.start) := by
  rw [movePage, Logged.value_bind, hrows]
  simp only [hsize, if_true, Logged.value_bind, Logged.value_pure, start]

theorem value_movePage_of_not_positive {f : Filter}
    (h : ∀ size, f.rows.value = some size → size ≤ 0) (move : Nat → Nat → Nat) :
    (f.movePage move).value = f := by
  rw [movePage, Logged.value_bind]
  cases hrows : f.rows.value with
  | none => rfl
  | some size =>
    have hsize : ¬ 0 < size := Int.not_lt.2 (h size hrows)
    simp only [hsize, if_false, Logged.value_pure]

theorem value_nextPage {f : Filter} {size : Int} {start : Nat} (hrows : f.rows.value = some size)
    (hsize : 1 ≤ size) (hfirst : f.first.value = some start) :
    f.nextPage.value = f.withFirst (start + size.toNat) := by
  rw [nextPage, value_movePage hrows hsize, Filter.start, hfirst, Option.getD_some]

/-! ## Requests for a page -/

/-- A filter that asks for `size` entities from the place `start` on. -/
structure PageRequest (f : Filter) (size : Int) (start : Nat) : Prop where
  wellFormed : f.WellFormed
  plain : ∀ t ∈ f.terms, t.Plain
  rows : f.rows.value = some size
  positive : 1 ≤ size
  first : f.first.value = some start

namespace PageRequest

variable {f : Filter} {size : Int} {start : Nat}

theorem ofString_print (h : PageRequest f size start) : ofString f.print = ⟨f.printOrder⟩ :=
  ofString_print_of_printable h.wellFormed fun t ht => (h.plain t ht).printable

theorem reread (h : PageRequest f size start) : PageRequest (ofString f.print) size start := by
  have hfind := find?_eq_of_perm h.wellFormed (g := ⟨f.printOrder⟩) (perm_printOrder h.wellFormed)
  rw [h.ofString_print]
  refine ⟨h.wellFormed.printOrder, fun t ht => h.plain t ((mem_printOrder h.wellFormed).1 ht),
    ?_, h.positive, ?_⟩
  · rw [value_rows, hfind, ← value_rows]
    exact h.rows
  · rw [value_first, hfind, ← value_first]
    exact h.first

theorem start_pos (h : PageRequest f size start) : 1 ≤ start := (first_bounds h.first).1

theorem plain_first (n : Nat) : Term.Plain ⟨Keyword.first, .equal, toString n⟩ :=
  Term.plain_presentation (by decide) _

theorem withFirst (h : PageRequest f size start) {n : Nat} (hpos : 1 ≤ n)
    (hn : (n : Int) ≤ Decimal.maxInt) : PageRequest (f.withFirst n) size n := by
  refine ⟨h.wellFormed.withFirst n, fun t ht => ?_, ?_, h.positive, first_withFirst f hpos hn⟩
  · rw [withFirst_eq] at ht
    rcases mem_of_mem_insert ht with rfl | ht
    · exact plain_first n
    · exact h.plain t ht
  · rw [rows_withFirst]
    exact h.rows

/-- The next page of a filter that is read back is asked for in the same way. -/
theorem next (h : PageRequest f size start)
    (hbound : ((start + size.toNat : Nat) : Int) ≤ Decimal.maxInt) :
    PageRequest (ofString f.print).nextPage.value size (start + size.toNat) := by
  have hread := h.reread
  rw [value_nextPage hread.rows hread.positive hread.first]
  exact hread.withFirst (Nat.le_add_right_of_le h.start_pos) hbound

end PageRequest

end Filter

end ListView
