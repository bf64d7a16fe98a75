import ListView.Decimal.Reader
import ListView.Proofs.Text.Blank

/-!
# Whole numbers read back

The decimal digits of a number are read as that number, blanks around them
aside, as long as it has 64 bits with a sign; those of a larger number are not
read at all.
-/

namespace ListView.Decimal

open Text

theorem digitsValue_toDigits (n : Nat) : digitsValue (Nat.toDigits 10 n) = n :=
  Nat.ofDigitChars_ten_toDigits

theorem isBlank_of_isDigit {c : Char} (h : c.isDigit = true) : isBlank c = false := by
  have hbounds := Char.isDigit_iff_toNat.1 h
  refine Bool.eq_false_iff.2 fun hblank => ?_
  obtain ⟨r, hr, hlo, hhi⟩ := CodePoints.mem_of_has hblank
  have hapart : ∀ r ∈ whiteSpace, r.2 < '0'.toNat ∨ '9'.toNat < r.1 := by decide
  have hzero : '0'.toNat = 48 := rfl
  have hnine : '9'.toNat = 57 := rfl
  rcases hapart r hr with hlt | hlt <;> omega

theorem takeSign_of_isDigit {cs : List Char} (h : ∀ c ∈ cs, c.isDigit = true) :
    takeSign cs = (false, cs) := by
  unfold takeSign
  split
  · exact absurd (h '-' List.mem_cons_self) (by decide)
  · exact absurd (h '+' List.mem_cons_self) (by decide)
  · rfl

theorem readInt_toDigits (n : Nat) :
    readInt (Nat.toDigits 10 n) = if (n : Int) ≤ maxInt then some (n : Int) else none := by
  have hdigits : ∀ c ∈ Nat.toDigits 10 n, c.isDigit = true := fun c hc =>
    Nat.isDigit_of_mem_toDigits (by decide) (by decide) hc
  have hlow : minInt ≤ (n : Int) := by
    unfold minInt
    omega
  have hempty : (Nat.toDigits 10 n).isEmpty = false := by simp [Nat.toDigits_ne_nil]
  simp only [readInt, takeSign_of_isDigit hdigits, hempty, List.all_eq_true.2 hdigits, signedValue,
    digitsValue_toDigits]
  simp [hlow]

/-- A number that is printed is read back, unless it has more than 64 bits. -/
theorem readInt_trim_toString_eq (n : Nat) :
    readInt (trim (toString n).toList) = if (n : Int) ≤ maxInt then some (n : Int) else none := by
  have hdigits : ∀ c ∈ Nat.toDigits 10 n, isBlank c = false := fun c hc =>
    isBlank_of_isDigit (Nat.isDigit_of_mem_toDigits (by decide) (by decide) hc)
  show readInt (trim n.repr.toList) = _
  rw [Nat.toList_repr, (trimmed_of_forall_not_blank hdigits).trim_eq, readInt_toDigits]

theorem readInt_trim_toString {n : Nat} (h : (n : Int) ≤ maxInt) :
    readInt (trim (toString n).toList) = some (n : Int) := by
  rw [readInt_trim_toString_eq, if_pos h]

theorem readInt_minus_toDigits {n : Nat} (h : minInt ≤ -(n : Int)) :
    readInt ('-' :: Nat.toDigits 10 n) = some (-(n : Int)) := by
  have hdigits : ∀ c ∈ Nat.toDigits 10 n, c.isDigit = true := fun c hc =>
    Nat.isDigit_of_mem_toDigits (by decide) (by decide) hc
  have hhigh : -(n : Int) ≤ maxInt := by
    unfold maxInt
    omega
  have hempty : (Nat.toDigits 10 n).isEmpty = false := by simp [Nat.toDigits_ne_nil]
  simp only [readInt, takeSign, hempty, List.all_eq_true.2 hdigits, signedValue,
    digitsValue_toDigits]
  simp [hhigh, h]

/-- A signed number that is printed is read back. -/
theorem readInt_trim_toString_int {n : Int} (hlow : minInt ≤ n) (hhigh : n ≤ maxInt) :
    readInt (trim (toString n).toList) = some n := by
  cases n with
  | ofNat m => exact readInt_trim_toString hhigh
  | negSucc m =>
    have hblank : ∀ c ∈ '-' :: Nat.toDigits 10 (m + 1), isBlank c = false := by
      intro c hc
      rcases List.mem_cons.1 hc with rfl | hc
      · decide
      · exact isBlank_of_isDigit (Nat.isDigit_of_mem_toDigits (by decide) (by decide) hc)
    have hprint : (toString (Int.negSucc m)).toList = '-' :: Nat.toDigits 10 (m + 1) := by
      show ("-" ++ (m + 1).repr).toList = _
      rw [String.toList_append, Nat.toList_repr]
      rfl
    rw [hprint, (trimmed_of_forall_not_blank hblank).trim_eq, Int.negSucc_eq]
    rw [Int.negSucc_eq] at hlow
    exact readInt_minus_toDigits hlow

end ListView.Decimal
