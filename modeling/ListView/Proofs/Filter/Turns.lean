import Mathlib.Logic.Function.Iterate
import ListView.Proofs.Filter.Insert
import ListView.Proofs.Filter.Paging
import ListView.Proofs.Filter.Reachable

/-!
# Turning several pages

Any number of turns in one direction sets the start once, to the place where
they end (`iterate_movePage`), as long as each place on the way can be read
back. That holds of every way back, and of a way on up to the largest number of
64 bits with a sign: the turn that goes beyond it loses the place
(`first_nextPage_eq_some_iff`).
-/

namespace ListView.Filter

variable {f : Filter} {size : Int}

/-! ## Setting the start -/

theorem start_bounds (f : Filter) : 1 ≤ f.start ∧ (f.start : Int) ≤ Decimal.maxInt := by
  unfold start
  cases hfirst : f.first.value with
  | none => decide
  | some n => exact first_bounds hfirst

theorem start_withFirst (f : Filter) {n : Nat} (hpos : 1 ≤ n) (h : (n : Int) ≤ Decimal.maxInt) :
    (f.withFirst n).start = n := by
  rw [start, first_withFirst f hpos h, Option.getD_some]

theorem withFirst_withFirst (f : Filter) (m n : Nat) :
    (f.withFirst m).withFirst n = f.withFirst n := by
  rw [withFirst_eq, withFirst_eq, withFirst_eq]
  refine insert_insert ?_ f
  rfl

/-! ## One turn -/

/-- The place after the next turn is read back exactly up to the largest number of 64 bits with a
sign; beyond it none is. The sum itself always fits into 64 bits. -/
theorem first_nextPage_eq_some_iff (hrows : f.rows.value = some size) (hsize : 0 < size) :
    (∀ place, f.nextPage.value.first.value = some place ↔
      place = f.start + size.toNat ∧ place ≤ 2 ^ 63 - 1) ∧
    f.start < f.start + size.toNat ∧ f.start + size.toNat < 2 ^ 64 := by
  have hmax : Decimal.maxInt = 2 ^ 63 - 1 := rfl
  have hstart := f.start_bounds
  have hrowsMax := rows_le_maxInt hrows
  refine ⟨fun place => ?_, by omega, by omega⟩
  rw [nextPage, value_movePage hrows hsize, value_first_withFirst f (by omega)]
  split
  · rw [Option.some.injEq]
    omega
  · simp only [reduceCtorEq, false_iff]
    omega

theorem first_nextPage_eq_some_iff_largest :
    ∃ f, Reachable f ∧ f.rows.value = some 5 ∧ f.start = 2 ^ 63 - 6 ∧
      f.nextPage.value.first.value = some (2 ^ 63 - 1) := by
  let f := ofString "rows=5 first=9223372036854775802"
  have hf : f.rows.value = some 5 ∧ f.start = 2 ^ 63 - 6 := by decide +kernel
  obtain ⟨hrows, hstart⟩ := hf
  have hread := (first_nextPage_eq_some_iff hrows (by decide)).1 (2 ^ 63 - 1)
  rw [hstart] at hread
  exact ⟨f, .ofString _, hrows, hstart, hread.2 (by decide)⟩

/-- One place further the start is lost: what is written is no number of 64 bits with a sign. -/
theorem first_nextPage_ne_beyond_largest :
    ∃ f, Reachable f ∧ f.rows.value = some 1 ∧ f.first.value = some (2 ^ 63 - 1) ∧
      f.nextPage.value.get? Keyword.first = some "9223372036854775808" ∧
      f.nextPage.value.first.value = none ∧
      f.nextPage.value.first.value ≠ some (2 ^ 63 - 1 + 1) :=
  ⟨ofString "rows=1 first=9223372036854775807", .ofString _, by decide +kernel⟩

/-! ## Many turns -/

/-- The filter `n` pages on. -/
def pagesOn (f : Filter) (n : Nat) : Filter := (fun g => g.nextPage.value)^[n] f

/-- The filter `n` pages back. -/
def pagesBack (f : Filter) (n : Nat) : Filter := (fun g => g.previousPage.value)^[n] f

/-- Turns over the places `place 0`, `place 1` and so on leave nothing but the last of them, if each
is a number that is read back. -/
theorem iterate_movePage {move : Nat → Nat → Nat} (place : Nat → Nat)
    (hrows : f.rows.value = some size) (hsize : 0 < size) (hstart : place 0 = f.start)
    (hmove : ∀ k, place (k + 1) = move size.toNat (place k)) {n : Nat}
    (hplace : ∀ k < n, 1 ≤ place (k + 1) ∧ (place (k + 1) : Int) ≤ Decimal.maxInt) :
    (fun g => (g.movePage move).value)^[n + 1] f = f.withFirst (place (n + 1)) := by
  induction n with
  | zero =>
    rw [Function.iterate_one, value_movePage hrows hsize, hmove, hstart]
  | succ n ih =>
    obtain ⟨hpos, hmax⟩ := hplace n (Nat.lt_succ_self n)
    have hrows' : (f.withFirst (place (n + 1))).rows.value = some size := by
      rw [rows_withFirst, hrows]
    rw [Function.iterate_succ_apply', ih fun k hk => hplace k (Nat.lt_succ_of_lt hk),
      value_movePage hrows' hsize, start_withFirst f hpos hmax, withFirst_withFirst, ← hmove]

theorem pagesOn_succ (hrows : f.rows.value = some size) (hsize : 0 < size) {n : Nat}
    (h : ((f.start + (n + 1) * size.toNat : Nat) : Int) ≤ Decimal.maxInt) :
    f.pagesOn (n + 1) = f.withFirst (f.start + (n + 1) * size.toNat) := by
  have hstart := f.start_bounds
  refine iterate_movePage (fun k => f.start + k * size.toNat) hrows hsize (by simp) (fun k => ?_)
    (fun k hk => ?_)
  · rw [Nat.succ_mul, Nat.add_assoc]
  · have hle : (k + 1) * size.toNat ≤ (n + 1) * size.toNat :=
      Nat.mul_le_mul_right _ (Nat.le_succ_of_le hk)
    omega

theorem pagesBack_succ (hrows : f.rows.value = some size) (hsize : 0 < size) (n : Nat) :
    f.pagesBack (n + 1) = f.withFirst (max (f.start - (n + 1) * size.toNat) 1) := by
  have hstart := f.start_bounds
  refine iterate_movePage (fun k => max (f.start - k * size.toNat) 1) hrows hsize ?_ (fun k => ?_)
    (fun k _ => ?_)
  · simp only [Nat.zero_mul]
    omega
  · simp only [Nat.succ_mul]
    omega
  · omega

/-- Pages on and then as many pages back lead to the start, which is then written out. -/
theorem pagesBack_pagesOn (hrows : f.rows.value = some size) (hsize : 0 < size) {n : Nat}
    (h : ((f.start + (n + 1) * size.toNat : Nat) : Int) ≤ Decimal.maxInt) :
    (f.pagesOn (n + 1)).pagesBack (n + 1) = f.withFirst f.start := by
  have hpos := f.start_bounds.1
  rw [pagesOn_succ hrows hsize h]
  have hrows' : (f.withFirst (f.start + (n + 1) * size.toNat)).rows.value = some size := by
    rw [rows_withFirst, hrows]
  rw [pagesBack_succ hrows' hsize, start_withFirst f (by omega) h, withFirst_withFirst,
    Nat.add_sub_cancel, Nat.max_eq_left hpos]

/-- Where any number of turns leads, with a page size and without one. -/
theorem first_of_turned_pages (f : Filter) :
    (∀ size, f.rows.value = some size → 0 < size →
      (∀ n, 1 ≤ n → f.start + n * size.toNat ≤ 2 ^ 63 - 1 →
        (f.pagesOn n).first.value = some (f.start + n * size.toNat) ∧
        ((f.pagesOn n).pagesBack n).terms = (f.set Keyword.first (toString f.start)).terms) ∧
      ∀ m, 1 ≤ m → (f.pagesBack m).first.value = some (max 1 (f.start - m * size.toNat))) ∧
    ((∀ size, f.rows.value = some size → size ≤ 0) →
      f.nextPage.value.terms = f.terms ∧ f.previousPage.value.terms = f.terms) := by
  have hmax : Decimal.maxInt = 2 ^ 63 - 1 := rfl
  have hstart := f.start_bounds
  refine ⟨fun size hrows hsize => ⟨fun n hn hbound => ?_, fun m hm => ?_⟩, fun hnone => ?_⟩
  · obtain ⟨n, rfl⟩ := Nat.exists_eq_add_of_le' hn
    have hplace : ((f.start + (n + 1) * size.toNat : Nat) : Int) ≤ Decimal.maxInt := by omega
    constructor
    · rw [pagesOn_succ hrows hsize hplace, first_withFirst f (by omega) hplace]
    · rw [pagesBack_pagesOn hrows hsize hplace, withFirst]
  · obtain ⟨m, rfl⟩ := Nat.exists_eq_add_of_le' hm
    rw [pagesBack_succ hrows hsize, first_withFirst f (by omega) (by omega), Nat.max_comm]
  · rw [nextPage, previousPage, value_movePage_of_not_positive hnone,
      value_movePage_of_not_positive hnone]
    exact ⟨rfl, rfl⟩

theorem first_of_turned_pages_eighth :
    let f := ofString "first=8 sort=id rows=3"
    let g := ofString "rows=-1 first=5"
    (f.pagesOn 2).first.value = some 14 ∧
      ((f.pagesOn 2).pagesBack 2).terms =
        [⟨"first", .equal, "8"⟩, ⟨"sort", .equal, "id"⟩, ⟨"rows", .equal, "3"⟩] ∧
      (f.pagesBack 3).first.value = some 1 ∧
      g.nextPage.value.terms = g.terms ∧ g.previousPage.value.terms = g.terms := by
  intro f g
  have hf : f.rows.value = some 3 ∧ f.start = 8 ∧ (f.set Keyword.first (toString f.start)).terms =
      [⟨"first", .equal, "8"⟩, ⟨"sort", .equal, "id"⟩, ⟨"rows", .equal, "3"⟩] := by
    decide +kernel
  obtain ⟨hrows, hstart, hset⟩ := hf
  have hg : g.rows.value = some (-1) := by decide +kernel
  obtain ⟨hon, hback⟩ := (first_of_turned_pages f).1 3 hrows (by decide)
  obtain ⟨hfirst, hterms⟩ := hon 2 (by decide) (by rw [hstart]; decide)
  have hleast := hback 3 (by decide)
  rw [hstart] at hfirst hleast
  refine ⟨hfirst, hterms.trans hset, hleast, (first_of_turned_pages g).2 fun size hsize => ?_⟩
  cases hg.symm.trans hsize
  decide

end ListView.Filter
