import ListView.Proofs.Page.Embedded
import ListView.Proofs.Page.Navigation

/-!
# Range of counts

Whatever a response says, the counts that are read from it have a bit to spare
in unsigned words of 64 bits (`Counts.inRange_read`). The place of the last
entity is a sum and a difference of such words. No step leaves them on a page
that decodes, so all that is told about its place in the list is told of the
exact number (`Page.navigable_of_decode`).
-/

namespace ListView

namespace Element

theorem numberOf_bounds {s : String} {n : Int} (h : numberOf s = some n) :
    Decimal.minInt ≤ n ∧ n ≤ Decimal.maxInt := by
  simp only [numberOf] at h
  split at h
  · rename_i m hread
    cases h
    exact Decimal.readInt_bounds hread
  · obtain ⟨x, -, rfl⟩ := Option.map_eq_some_iff.1 h
    exact clamp_bounds _

/-- The number that an element says has 64 bits. -/
theorem number?_bounds {node : Json} {n : Int} (h : number? node = some n) :
    Decimal.minInt ≤ n ∧ n ≤ Decimal.maxInt := by
  unfold number? at h
  split at h
  · cases h
    exact clamp_bounds _
  · cases h
    exact clamp_bounds _
  · exact numberOf_bounds h
  · cases h

end Element

namespace Counts

/-! ## What is read -/

/-- No page size below the one for all rows, and no count above the signed numbers of 64 bits. -/
structure InRange (c : Counts) : Prop where
  rows : -1 ≤ c.rows
  first : c.first ≤ 2 ^ 63 - 1
  length : c.length ≤ 2 ^ 63 - 1
  all : c.all ≤ 2 ^ 63 - 1
  filtered : c.filtered ≤ 2 ^ 63 - 1

theorem value_atLeast_bounds {least : Int} (hleast : least ≤ 0) (field : CountField)
    (node : Option Json) :
    least ≤ (atLeast least field node).value ∧
      (atLeast least field node).value ≤ Decimal.maxInt := by
  have hzero : (0 : Int) ≤ Decimal.maxInt := by decide
  unfold atLeast
  split
  · rename_i n hn
    obtain ⟨v, -, hv⟩ := Option.bind_eq_some_iff.1 hn
    split
    · rename_i hle
      exact ⟨hle, (Element.number?_bounds hv).2⟩
    · exact ⟨hleast, hzero⟩
  · exact ⟨hleast, hzero⟩

theorem value_unsigned_eq (field : CountField) (node : Option Json) :
    ((unsigned field node).value : Int) = (atLeast 0 field node).value :=
  Int.toNat_of_nonneg (value_atLeast_bounds (Int.le_refl 0) field node).1

theorem value_unsigned_le (field : CountField) (node : Option Json) :
    (unsigned field node).value ≤ 2 ^ 63 - 1 := by
  have heq := value_unsigned_eq field node
  have hle := (value_atLeast_bounds (Int.le_refl 0) field node).2
  simp only [Decimal.maxInt] at hle
  omega

/-- Counts are in range whatever the elements are that they are read from. -/
theorem inRange_read (count page : Option Json) : (read count page).value.InRange := by
  have hpaging : (readPaging page).value.1 ≤ 2 ^ 63 - 1 ∧ -1 ≤ (readPaging page).value.2 := by
    rw [Page.value_readPaging_attributes]
    exact ⟨value_unsigned_le _ _, (value_atLeast_bounds (by decide) _ _).1⟩
  have htotals : (readTotals count).value.1 ≤ 2 ^ 63 - 1 ∧
      (readTotals count).value.2.1 ≤ 2 ^ 63 - 1 ∧ (readTotals count).value.2.2 ≤ 2 ^ 63 - 1 := by
    cases count with
    | none => decide
    | some count => exact ⟨value_unsigned_le _ _, value_unsigned_le _ _, value_unsigned_le _ _⟩
  rw [Page.value_read]
  exact ⟨hpaging.2, hpaging.1, htotals.1, htotals.2.1, htotals.2.2⟩

/-! ## The last place in words -/

abbrev Word := BitVec 64

/-- The sum, unless it needs more bits. -/
def sum? (a b : Word) : Option Word := if a.uaddOverflow b then none else some (a + b)

/-- The difference, unless it is negative. -/
def difference? (a b : Word) : Option Word := if a.usubOverflow b then none else some (a - b)

/-- The place of the page's last entity, computed in words; nothing if a step leaves them. -/
def lastWord? (c : Counts) : Option Word :=
  if c.length = 0 then some 0
  else (sum? (.ofNat 64 c.first) (.ofNat 64 c.length)).bind (difference? · 1)

theorem toNat_ofNat_of_lt {n : Nat} (h : n < 2 ^ 64) : (BitVec.ofNat 64 n).toNat = n := by
  rw [BitVec.toNat_ofNat, Nat.mod_eq_of_lt h]

theorem sum?_ofNat {a b : Nat} (h : a + b < 2 ^ 64) :
    sum? (.ofNat 64 a) (.ofNat 64 b) = some (.ofNat 64 (a + b)) := by
  have hoverflow : (BitVec.ofNat 64 a).uaddOverflow (.ofNat 64 b) = false := by
    rw [BitVec.uaddOverflow, toNat_ofNat_of_lt (by omega), toNat_ofNat_of_lt (by omega)]
    exact decide_eq_false (Nat.not_le.2 h)
  rw [sum?, hoverflow, BitVec.ofNat_add]
  rfl

theorem difference?_ofNat {a b : Nat} (hb : b ≤ a) (ha : a < 2 ^ 64) :
    difference? (.ofNat 64 a) (.ofNat 64 b) = some (.ofNat 64 (a - b)) := by
  have hoverflow : (BitVec.ofNat 64 a).usubOverflow (.ofNat 64 b) = false := by
    rw [BitVec.usubOverflow, toNat_ofNat_of_lt ha, toNat_ofNat_of_lt (by omega)]
    exact decide_eq_false (Nat.not_lt.2 hb)
  rw [difference?, hoverflow, BitVec.ofNat_sub_ofNat_of_le _ _ (by omega) hb]
  rfl

theorem last_of_empty {c : Counts} (h : c.length = 0) : c.last = 0 := if_pos h

theorem last_of_not_empty {c : Counts} (h : c.length ≠ 0) : c.last = c.first + c.length - 1 :=
  if_neg h

/-- Words are wide enough for the last place if they are for the sum. -/
theorem lastWord?_eq {c : Counts} (h : c.first + c.length < 2 ^ 64) :
    c.lastWord? = some (.ofNat 64 c.last) := by
  unfold lastWord?
  split
  · rename_i hempty
    rw [last_of_empty hempty]
    rfl
  · rename_i hempty
    have hpos : 1 ≤ c.first + c.length := by omega
    rw [sum?_ofNat h, last_of_not_empty hempty]
    exact difference?_ofNat hpos h

example : lastWord? ⟨2 ^ 64 - 1, 10, 1, 1, 1⟩ = none := by decide

/-- What is told about the place of a page in its list is told of this last place, which is the
exact number and is computed in words. -/
structure Navigable (c : Counts) (last : Word) : Prop where
  word : c.lastWord? = some last
  last_eq : c.last = last.toNat
  empty : c.length = 0 → last.toNat = 0
  exact : c.length ≠ 0 → (last.toNat : Int) = c.first + c.length - 1
  isLast_iff : c.isLast = true ↔ BitVec.ofNat 64 c.filtered ≤ last
  hasNext_iff : c.hasNext = true ↔ last < BitVec.ofNat 64 c.filtered
  summary : c.summary =
    toString (if c.length = 0 then 0 else c.first) ++ " - " ++ toString last.toNat ++ " of " ++
      toString c.filtered ++ " (total: " ++ toString c.all ++ ")"

theorem navigable_of_inRange {c : Counts} (h : c.InRange) :
    c.first + c.length ≤ 2 ^ 64 - 2 ∧ c.Navigable (.ofNat 64 c.last) := by
  have hsum : c.first + c.length ≤ 2 ^ 64 - 2 := by
    have hfirst := h.first
    have hlength := h.length
    omega
  have hle : c.last ≤ c.first + c.length := by
    unfold last
    split <;> omega
  have hlast : (BitVec.ofNat 64 c.last).toNat = c.last := toNat_ofNat_of_lt (by omega)
  have hfiltered : (BitVec.ofNat 64 c.filtered).toNat = c.filtered :=
    toNat_ofNat_of_lt (by have hfiltered := h.filtered; omega)
  refine ⟨hsum, ?_⟩
  constructor
  · exact lastWord?_eq (by omega)
  · exact hlast.symm
  · intro hempty
    rw [hlast, last_of_empty hempty]
  · intro hempty
    rw [hlast, last_of_not_empty hempty]
    omega
  · rw [isLast, decide_eq_true_iff, BitVec.le_def, hfiltered, hlast]
  · rw [hasNext_iff, BitVec.lt_def, hfiltered, hlast]
  · rw [hlast]
    rfl

end Counts

namespace Page

variable {ε α : Type}

/-- Counts are in range wherever they are read from, and a page that decodes has its last place. -/
theorem navigable_of_decode :
    (∀ count page : Option Json, (Counts.read count page).value.InRange) ∧
    ∀ (l : Layout) (keyword : String) (decoder : Json → Except ε α) (r : Json) (p : Page α),
      (decode l keyword decoder r).value = .ok p ∨
        (decodeEmbedded l keyword decoder r).value = .ok p →
      p.counts.first + p.counts.length ≤ 2 ^ 64 - 2 ∧ ∃ last, p.counts.Navigable last := by
  refine ⟨Counts.inRange_read, fun l keyword decoder r p h => ?_⟩
  have hrange : p.counts.InRange := by
    rcases h with h | h
    · rw [(parts_of_value_decodeBy h).2]
      exact Counts.inRange_read _ _
    · rw [(parts_of_value_decodeBy h).2]
      exact Counts.inRange_read _ _
  obtain ⟨hsum, hnavigable⟩ := Counts.navigable_of_inRange hrange
  exact ⟨hsum, _, hnavigable⟩

/-- A page of one task that says the largest numbers for its start and its length. -/
def largestPage : Json := .object [("task", .object [("_id", .int 1)]),
  ("task_count", .object [("page", .string "9223372036854775807")]),
  ("tasks", .object [("_start", .int 18446744073709551615), ("_max", .int (-7))])]

theorem navigable_of_decode_largest :
    ∃ p : Page Entity,
      (decode .default "task" (Entity.decode Timestamp.read?) largestPage).value = .ok p ∧
      p.counts.InRange ∧ p.counts.first + p.counts.length = 2 ^ 64 - 2 ∧
      ∃ last, p.counts.Navigable last := by
  have hnavigable :=
    navigable_of_decode.2 .default "task" (Entity.decode Timestamp.read?) largestPage _
    (.inl rfl)
  refine ⟨_, rfl, (navigable_of_decode (ε := Entity.Error) (α := Entity)).1 _ _, rfl, ?_⟩
  exact hnavigable.2

end Page

end ListView
