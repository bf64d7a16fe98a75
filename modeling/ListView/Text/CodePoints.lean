/-!
# Code points

A property of characters is a list of closed ranges of code points in increasing
order. In escapes, a code point is spelled in hexadecimal digits.
-/

namespace ListView.Text

/-! ## Sets of code points -/

abbrev CodePoints := List (Nat × Nat)

namespace CodePoints

/-- Stops at the first range that lies beyond the code point. -/
def has : CodePoints → Nat → Bool
  | [], _ => false
  | (lo, hi) :: rest, n => if n < lo then false else n ≤ hi || has rest n

theorem mem_of_has {ranges : CodePoints} {n : Nat} (h : has ranges n = true) :
    ∃ r ∈ ranges, r.1 ≤ n ∧ n ≤ r.2 := by
  induction ranges with
  | nil => simp [has] at h
  | cons r rest ih =>
    obtain ⟨lo, hi⟩ := r
    by_cases hlo : n < lo
    · simp [has, hlo] at h
    · by_cases hhi : n ≤ hi
      · exact ⟨(lo, hi), by simp, Nat.le_of_not_lt hlo, hhi⟩
      · obtain ⟨r, hr, hb⟩ := ih (by simpa [has, hlo, hhi] using h)
        exact ⟨r, List.mem_cons_of_mem _ hr, hb⟩

def hasChar (ranges : CodePoints) (c : Char) : Bool := ranges.has c.toNat

end CodePoints

/-! ## Hexadecimal digits -/

def hexValue (c : Char) : Option Nat :=
  if c.isDigit then some (c.toNat - '0'.toNat)
  else if 'a' ≤ c && c ≤ 'f' then some (c.toNat - 'a'.toNat + 10)
  else if 'A' ≤ c && c ≤ 'F' then some (c.toNat - 'A'.toNat + 10)
  else none

/-- The number that hexadecimal digits spell, in either case. -/
def hexNumber (digits : List Char) : Option Nat :=
  digits.foldlM (fun n c => (hexValue c).map (16 * n + ·)) 0

end ListView.Text
