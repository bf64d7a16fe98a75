import Mathlib.Algebra.Group.Nat.Defs
import ListView.Page.Counts

/-!
# Next and previous page

What the counts of a page say about the pages around it. A page within its list
has a next one exactly if the list goes on behind it. A page behind the end of a
list is empty, and an empty page counts as one from which all that matches is
still to come (`hasNext_ofPage_iff`).
-/

namespace ListView.Counts

theorem hasNext_iff (c : Counts) : c.hasNext = true ↔ c.last < c.filtered := by
  rw [hasNext, isLast, ← decide_not, decide_eq_true_iff, Nat.not_le]

theorem hasPrevious_iff (c : Counts) : c.hasPrevious = true ↔ 1 < c.first := by
  rw [hasPrevious, isFirst, ← decide_not, decide_eq_true_iff, Nat.not_le]

/-- The counts of a page of `size` entities from the place `start` on, in a list of `matching`. -/
def ofPage (size start matching all : Nat) : Counts :=
  ⟨start, size, min size (matching + 1 - start), all, matching⟩

variable {size start matching all : Nat}

theorem last_ofPage_of_le (hsize : 1 ≤ size) (h : start ≤ matching) :
    (ofPage size start matching all).last = min (start + size - 1) matching := by
  have hlength : min size (matching + 1 - start) ≠ 0 := by omega
  simp only [last, ofPage, hlength, if_false]
  omega

theorem last_ofPage_of_lt (h : matching < start) : (ofPage size start matching all).last = 0 := by
  have hlength : min size (matching + 1 - start) = 0 := by omega
  exact if_pos hlength

theorem hasNext_ofPage (hsize : 1 ≤ size) :
    (ofPage size start matching all).hasNext = true ↔
      start + size ≤ matching ∨ 0 < matching ∧ matching < start := by
  have hfiltered : (ofPage size start matching all).filtered = matching := rfl
  rw [hasNext_iff, hfiltered]
  rcases Nat.lt_or_ge matching start with h | h
  · rw [last_ofPage_of_lt h]
    omega
  · rw [last_ofPage_of_le hsize h]
    omega

/-- Whether there is a next page is told right exactly if the page begins within the list or nothing
matches at all; whether there is a previous one always is. -/
theorem hasNext_ofPage_iff (hsize : 1 ≤ size) (hbits : start + size < 2 ^ 64) :
    (ofPage size start matching all).first + (ofPage size start matching all).length < 2 ^ 64 ∧
    ((ofPage size start matching all).hasNext = true ↔
      start + size ≤ matching ∨ 0 < matching ∧ matching < start) ∧
    (((ofPage size start matching all).hasNext = true ↔ start + size ≤ matching) ↔
      start ≤ matching ∨ matching = 0) ∧
    ((ofPage size start matching all).hasPrevious = true ↔ 1 < start) := by
  have hlength : start + min size (matching + 1 - start) < 2 ^ 64 := by omega
  refine ⟨hlength, hasNext_ofPage hsize, ?_, hasPrevious_iff _⟩
  rw [hasNext_ofPage hsize]
  omega

theorem hasNext_ofPage_iff_last :
    (ofPage 10 21 25 50).length = 5 ∧ (ofPage 10 21 25 50).hasNext = false ∧
      (ofPage 10 21 25 50).hasPrevious = true := by
  obtain ⟨-, -, hright, hprevious⟩ :=
    @hasNext_ofPage_iff 10 21 25 50 (by decide) (by decide)
  have hnext : ¬ (ofPage 10 21 25 50).hasNext = true := fun h =>
    absurd ((hright.2 (.inl (by decide))).1 h) (by decide)
  exact ⟨rfl, Bool.eq_false_iff.2 hnext, hprevious.2 (by decide)⟩

/-- A page from the fifth place on, in a list of three, says that there is a next one. -/
theorem hasNext_ofPage_behind_end :
    (ofPage 2 5 3 3).length = 0 ∧ (ofPage 2 5 3 3).hasNext = true ∧ ¬ 5 + 2 ≤ 3 := by
  decide

end ListView.Counts
