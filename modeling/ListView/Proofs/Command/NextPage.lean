import ListView.Command.Run
import ListView.Proofs.Filter.Completion

/-!
# The filter of the next page

What is shown under a page of which there is a next one. The filter is one page
on from where the page's own filter says, completed from the settings: its page
size and start come from the page's filter, or else from the default filter.
The counts say whether there is a next page, but not where it begins, so the
filter leads there exactly if the two agree (`first_nextFilter_eq_iff`).
-/

namespace ListView.Command

/-- The filter that is shown for the next page. -/
def nextFilter (settings : Settings) (page : Page Entity) : Filter :=
  (page.filter.mergePresentation settings.filter.value).nextPage.value

/-- The page size by which is moved on. -/
def nextSize? (settings : Settings) (page : Page Entity) : Option Int :=
  if page.filter.has Keyword.rows then page.filter.rows.value
  else settings.filter.value.rows.value

/-- The place from which is moved on. -/
def nextStart? (settings : Settings) (page : Page Entity) : Option Nat :=
  if page.filter.has Keyword.first then page.filter.first.value
  else settings.filter.value.first.value

/-- The place to which is moved: without a page size above zero it stays where it is. -/
def nextPlace? (settings : Settings) (page : Page Entity) : Option Nat :=
  match nextSize? settings page with
  | some size =>
    if 0 < size then some ((nextStart? settings page).getD 1 + size.toNat)
    else nextStart? settings page
  | none => nextStart? settings page

variable {settings : Settings} {page : Page Entity}

/-- What is shown of a page of which there is a next one. -/
theorem output_showPage (h : page.counts.hasNext = true) (format : OutputFormat) :
    (showPage settings page true format).value.output =
      Listing.format page format ++ "\n" ++
        ("next: " ++ (nextFilter settings page).print ++ "\n") := by
  rw [showPage, if_pos rfl, nextLine, if_pos h]
  rfl

theorem nextPlace?_of_pos {size : Int} (hsize : nextSize? settings page = some size)
    (hpos : 0 < size) :
    nextPlace? settings page = some ((nextStart? settings page).getD 1 + size.toNat) := by
  simp only [nextPlace?, hsize, hpos, if_true]

theorem nextPlace?_of_not_pos (h : ∀ size, nextSize? settings page = some size → size ≤ 0) :
    nextPlace? settings page = nextStart? settings page := by
  unfold nextPlace?
  split
  · rename_i size hsize
    rw [if_neg (Int.not_lt.2 (h size hsize))]
  · rfl

/-- The filter begins at the place to which is moved, as far as this is a number that is read. -/
theorem first_nextFilter_eq_some_iff {place : Nat} (h : (place : Int) ≤ Decimal.maxInt) :
    (nextFilter settings page).first.value = some place ↔
      nextPlace? settings page = some place := by
  have hrows := Filter.rows_mergePresentation page.filter settings.filter.value
  have hfirst := Filter.first_mergePresentation page.filter settings.filter.value
  rw [← nextSize?] at hrows
  rw [← nextStart?] at hfirst
  rw [nextFilter, Filter.nextPage]
  by_cases hpositive : ∃ size, nextSize? settings page = some size ∧ 0 < size
  · obtain ⟨size, hsize, hpos⟩ := hpositive
    rw [Filter.value_movePage (hrows.trans hsize) hpos, Filter.value_first_withFirst _ (by omega),
      Filter.start, hfirst, nextPlace?_of_pos hsize hpos]
    split
    · rfl
    · simp only [reduceCtorEq, false_iff, Option.some.injEq]
      omega
  · have hnone : ∀ size, nextSize? settings page = some size → size ≤ 0 := fun size hsize =>
      Int.not_lt.1 fun hpos => hpositive ⟨size, hsize, hpos⟩
    rw [Filter.value_movePage_of_not_positive (fun size h => hnone size (hrows.symm.trans h)),
      hfirst, nextPlace?_of_not_pos hnone]

/-- The counts of a full page of `size` entities from the place `start` on, with more behind it. -/
structure FullPage (c : Counts) (size start : Nat) : Prop where
  first : c.first = start
  rows : c.rows = size
  length : c.length = size
  start_pos : 1 ≤ start
  size_pos : 1 ≤ size
  hasNext : c.hasNext = true
  readable : start + size ≤ 2 ^ 63 - 1

theorem FullPage.last_succ {c : Counts} {size start : Nat} (h : FullPage c size start) :
    c.last + 1 = start + size := by
  have hsize := h.size_pos
  rw [Counts.last, h.length, h.first, if_neg (by omega)]
  omega

/-- The filter that is shown begins right behind the page exactly if the size and the place from
which is moved on lead there, as they do if they are those of the page. -/
theorem first_nextFilter_eq_iff (settings : Settings) {page : Page Entity} {size start : Nat}
    (h : FullPage page.counts size start) :
    (∀ format, (showPage settings page true format).value.output =
      Listing.format page format ++ "\n" ++
        ("next: " ++ (nextFilter settings page).print ++ "\n")) ∧
    page.counts.last + 1 = start + size ∧
    (nextSize? settings page = some (size : Int) → (nextStart? settings page).getD 1 = start →
      (nextFilter settings page).first.value = some (start + size)) ∧
    ((nextFilter settings page).first.value = some (start + size) ↔
      nextPlace? settings page = some (start + size)) := by
  have hmax : Decimal.maxInt = 2 ^ 63 - 1 := rfl
  have hreadable := h.readable
  have hsize := h.size_pos
  have hplace : (nextFilter settings page).first.value = some (start + size) ↔
      nextPlace? settings page = some (start + size) := first_nextFilter_eq_some_iff (by omega)
  refine ⟨output_showPage h.hasNext, h.last_succ, fun hrows hfirst => hplace.2 ?_, hplace⟩
  rw [nextPlace?_of_pos hrows (by omega), hfirst, Int.toNat_natCast]

/-- A page whose filter says where it begins, but takes its size from the settings. -/
theorem first_nextFilter_eq_iff_completed :
    let response : Json := .object [
      ("task", .array [.object [("_id", .string "c")],
        .object [("_id", .string "d"), ("_start", .int 3), ("_max", .int 2)]]),
      ("task_count", .object [("page", .int 2), ("filtered", .int 9)]),
      ("filters", .string "name~x first=3")]
    ∃ page : Page Entity,
      (Listing.decode ⟨"task", none, [], true⟩ response).value.toOption = some page ∧
      FullPage page.counts 2 3 ∧
      (nextFilter ⟨"sort=name", 2⟩ page).first.value = some 5 := by
  intro response
  let settings : Settings := ⟨"sort=name", 2⟩
  have hparts : ((Listing.decode ⟨"task", none, [], true⟩ response).value.toOption.map fun page =>
      (page.counts, nextSize? settings page, nextStart? settings page)) =
      some (⟨3, 2, 2, 0, 9⟩, some 2, some 3) := by
    decide +kernel
  obtain ⟨page, hdecode, heq⟩ := Option.map_eq_some_iff.1 hparts
  simp only [Prod.mk.injEq] at heq
  obtain ⟨hcounts, hsize, hstart⟩ := heq
  have hfull : FullPage page.counts 2 3 := by
    rw [hcounts]
    exact ⟨rfl, rfl, rfl, by decide, by decide, by decide, by decide⟩
  obtain ⟨-, -, hfirst, -⟩ := first_nextFilter_eq_iff settings hfull
  exact ⟨page, hdecode, hfull, hfirst hsize (by rw [hstart, Option.getD_some])⟩

/-- A page from the third place on whose filter does not say so is followed by itself. -/
theorem first_nextFilter_same_page :
    let response : Json := .object [
      ("task", .array [.object [("_id", .string "c")], .object [("_id", .string "d")]]),
      ("tasks", .object [("_start", .int 3), ("_max", .int 2)]),
      ("task_count", .object [("page", .int 2), ("__text", .int 9), ("filtered", .int 9)]),
      ("filters", .object [("term", .string "rows=2")])]
    ∃ page : Page Entity,
      (Listing.decode ⟨"task", none, [], false⟩ response).value.toOption = some page ∧
      FullPage page.counts 2 3 ∧
      (nextLine .default page).value = "next: sort=name rows=2 first=3\n" ∧
      (nextFilter .default page).first.value = some 3 ∧
      (nextFilter .default page).first.value ≠ some (3 + 2) := by
  intro response
  have hparts : ((Listing.decode ⟨"task", none, [], false⟩ response).value.toOption.map fun page =>
      (page.counts, (nextLine .default page).value, (nextFilter .default page).first.value)) =
      some (⟨3, 2, 2, 9, 9⟩, "next: sort=name rows=2 first=3\n", some 3) := by
    decide +kernel
  obtain ⟨page, hdecode, heq⟩ := Option.map_eq_some_iff.1 hparts
  simp only [Prod.mk.injEq] at heq
  obtain ⟨hcounts, hline, hfirst⟩ := heq
  refine ⟨page, hdecode, ?_, hline, hfirst, ?_⟩
  · rw [hcounts]
    exact ⟨rfl, rfl, rfl, by decide, by decide, by decide, by decide⟩
  · rw [hfirst]
    decide

end ListView.Command
