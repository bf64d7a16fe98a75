import ListView.Text.Case
import ListView.Proofs.Text.Blank

/-!
# Lower-casing

The lower case of a text is its own lower case (`lower_lower`). Lower-casing is
a respelling (`respelled_lower`): blanks, quotes, backslashes and operators stay
where they are, and none appears where there was none.
-/

namespace ListView.Text

def marks : List Char := ['"', '\\', '=', '~', '<', '>']

/-- Blanks and the characters by which a filter text falls into its parts. -/
def isMark (c : Char) : Bool := isBlank c || marks.contains c

theorem isBlank_of_not_mark {c : Char} (h : isMark c = false) : isBlank c = false := by
  simp only [isMark, Bool.or_eq_false_iff] at h
  exact h.1

theorem ne_of_not_mark {c d : Char} (h : isMark c = false) (hd : isMark d = true) : c ≠ d := by
  rintro rfl
  rw [h] at hd
  cases hd

/-! ## The table -/

/-- The ranges of code points that hold the marks. -/
def markRanges : CodePoints := whiteSpace ++ marks.map fun c => (c.toNat, c.toNat)

theorem exists_markRange {c : Char} (h : isMark c = true) :
    ∃ r ∈ markRanges, r.1 ≤ c.toNat ∧ c.toNat ≤ r.2 := by
  simp only [isMark, Bool.or_eq_true, List.contains_iff_mem] at h
  rcases h with h | h
  · obtain ⟨r, hr, hb⟩ := CodePoints.mem_of_has h
    exact ⟨r, List.mem_append_left _ hr, hb⟩
  · exact ⟨(c.toNat, c.toNat), List.mem_append_right _ (List.mem_map.2 ⟨c, h, rfl⟩), by simp⟩

namespace CaseRun

def imageLast (run : CaseRun) : Nat := run.image + (run.last - run.first)

/-- No code point of `other` is an image of `run`: the ranges lie apart, or alternate. -/
def avoids (run other : CaseRun) : Bool :=
  Nat.blt run.imageLast other.first || Nat.blt other.last run.image ||
    ((run.first == run.last || run.step == 2) && other.step == 2 &&
      run.image % 2 != other.first % 2)

/-- Neither the run nor its image meets the range. -/
def misses (run : CaseRun) (r : Nat × Nat) : Bool :=
  (Nat.blt run.last r.1 || Nat.blt r.2 run.first) &&
    (Nat.blt run.imageLast r.1 || Nat.blt r.2 run.image)

/-- The images of the run are characters that have no lower case of their own, and no mark is among
the run or its images. -/
def settles (run : CaseRun) : Bool :=
  lowering.all run.avoids && markRanges.all run.misses && run.misses ('İ'.toNat, 'İ'.toNat) &&
    (run.imageLast < 0xD800 || (0xDFFF < run.image && run.imageLast < 0x110000))

theorem not_covers_of_avoids {run other : CaseRun} {n : Nat} (h : run.avoids other = true)
    (hn : run.covers n = true) : other.covers (run.lower n) = false := by
  refine Bool.eq_false_iff.2 fun hcov => ?_
  simp only [avoids, covers, Bool.or_eq_true, Bool.and_eq_true, Nat.blt_eq, decide_eq_true_eq,
    beq_iff_eq, bne_iff_ne] at h hn hcov
  simp only [imageLast, lower] at h hcov
  obtain ⟨⟨hfirst, hlast⟩, hstep⟩ := hn
  obtain ⟨⟨hofirst, holast⟩, hostep⟩ := hcov
  rcases h with (h | h) | ⟨⟨h | h, ho⟩, hpar⟩
  · omega
  · omega
  · rw [ho] at hostep
    omega
  · rw [h] at hstep
    rw [ho] at hostep
    omega

end CaseRun

theorem settles_of_mem_lowering : lowering.all CaseRun.settles := by
  decide +kernel

/-! ## Characters -/

/-- Its own lower case. -/
def Settled (c : Char) : Prop := c ≠ 'Σ' ∧ lowerChar c = [c]

theorem lowerCode_cases (n : Nat) : lowerCode n = n ∨
    ∃ run ∈ lowering, run.covers n = true ∧ lowerCode n = run.lower n := by
  unfold lowerCode
  split
  · rename_i run hfind
    have hcov := List.find?_some hfind
    exact .inr ⟨run, List.mem_of_find?_eq_some hfind, hcov, rfl⟩
  · exact .inl rfl

/-- What is known of a code point that the table lowers. -/
theorem lowered_by_run {run : CaseRun} (hrun : run ∈ lowering) {n : Nat}
    (hn : run.covers n = true) :
    lowerCode (run.lower n) = run.lower n ∧ run.lower n ≠ 'İ'.toNat ∧ (run.lower n).isValidChar ∧
      ∀ r ∈ markRanges, ¬ (r.1 ≤ n ∧ n ≤ r.2) ∧ ¬ (r.1 ≤ run.lower n ∧ run.lower n ≤ r.2) := by
  have hsettles := List.all_eq_true.1 settles_of_mem_lowering run hrun
  have hcov := hn
  simp only [CaseRun.settles, Bool.and_eq_true, List.all_eq_true, Bool.or_eq_true,
    decide_eq_true_eq] at hsettles
  obtain ⟨⟨⟨havoid, hmarks⟩, hdot⟩, hvalid⟩ := hsettles
  simp only [CaseRun.covers, Bool.and_eq_true, decide_eq_true_eq] at hcov
  have hlow : run.image ≤ run.lower n ∧ run.lower n ≤ run.imageLast := by
    simp only [CaseRun.lower, CaseRun.imageLast]
    omega
  have hmisses : ∀ r, run.misses r = true →
      ¬ (r.1 ≤ n ∧ n ≤ r.2) ∧ ¬ (r.1 ≤ run.lower n ∧ run.lower n ≤ r.2) := by
    intro r hr
    simp only [CaseRun.misses, Bool.and_eq_true, Bool.or_eq_true, Nat.blt_eq] at hr
    omega
  refine ⟨?_, fun he => (hmisses _ hdot).2 (by simp [he]), ?_, fun r hr => hmisses r (hmarks r hr)⟩
  · have hnone : lowering.find? (·.covers (run.lower n)) = none := by
      refine List.find?_eq_none.2 fun other hother => ?_
      rw [CaseRun.not_covers_of_avoids (havoid other hother) hn]
      exact Bool.false_ne_true
    simp [lowerCode, hnone]
  · unfold Nat.isValidChar
    omega

theorem lowerChar_cases (c : Char) :
    lowerChar c = [c] ∨ isMark c = false ∧ lowerChar c ≠ [] ∧
      ∀ d ∈ lowerChar c, Settled d ∧ isMark d = false := by
  unfold lowerChar
  split
  · rename_i hc
    right
    subst hc
    refine ⟨by decide, by simp, fun d hd => ?_⟩
    simp only [List.mem_cons, List.not_mem_nil, or_false] at hd
    rcases hd with rfl | rfl <;> exact ⟨⟨by decide, by decide⟩, by decide⟩
  · rcases lowerCode_cases c.toNat with heq | ⟨run, hrun, hcov, heq⟩
    · left
      rw [heq, Char.ofNat_toNat]
    · right
      obtain ⟨hcode, hdot, hvalid, hmarks⟩ := lowered_by_run hrun hcov
      rw [heq]
      generalize run.lower c.toNat = n at *
      have hn : (Char.ofNat n).toNat = n := by
        rw [Char.ofNat, dif_pos hvalid]
        rfl
      have hmark : ∀ d : Char, (∀ r ∈ markRanges, ¬ (r.1 ≤ d.toNat ∧ d.toNat ≤ r.2)) →
          isMark d = false := by
        intro d hd
        refine Bool.eq_false_iff.2 fun hm => ?_
        obtain ⟨r, hr, hb⟩ := exists_markRange hm
        exact hd r hr hb
      refine ⟨hmark c fun r hr => (hmarks r hr).1, by simp, fun d hd => ?_⟩
      rw [List.mem_singleton] at hd
      subst hd
      refine ⟨⟨?_, ?_⟩, hmark _ fun r hr => hn.symm ▸ (hmarks r hr).2⟩
      · intro hsigma
        rw [← hn, hsigma] at hcode
        revert hcode
        decide
      · have hne : Char.ofNat n ≠ 'İ' := fun he => hdot (by rw [← hn, he])
        simp [lowerChar, hne, hn, hcode]

theorem lowerSigma_cases (before after : List Char) :
    lowerSigma before after = 'ς' ∨ lowerSigma before after = 'σ' := by
  unfold lowerSigma
  split
  · exact .inl rfl
  · exact .inr rfl

theorem settled_lowerSigma (before after : List Char) :
    Settled (lowerSigma before after) ∧ isMark (lowerSigma before after) = false := by
  rcases lowerSigma_cases before after with h | h <;> rw [h] <;>
    exact ⟨⟨by decide, by decide +kernel⟩, by decide⟩

theorem settled_of_mem_lowerChar {c d : Char} (hc : c ≠ 'Σ') (hd : d ∈ lowerChar c) :
    Settled d := by
  rcases lowerChar_cases c with heq | ⟨-, -, hall⟩
  · rw [heq, List.mem_singleton] at hd
    subst hd
    exact ⟨hc, heq⟩
  · exact (hall d hd).1

/-! ## Texts -/

theorem settled_of_mem_lowerAfter {cs before : List Char} {d : Char}
    (hd : d ∈ lowerAfter before cs) : Settled d := by
  induction cs generalizing before with
  | nil => simp [lowerAfter] at hd
  | cons c rest ih =>
    rw [lowerAfter, List.mem_append] at hd
    rcases hd with hd | hd
    · split at hd
      · rw [List.mem_singleton] at hd
        exact hd ▸ (settled_lowerSigma before rest).1
      · rename_i hc
        exact settled_of_mem_lowerChar hc hd
    · exact ih hd

theorem lowerAfter_of_settled {cs : List Char} (h : ∀ c ∈ cs, Settled c) (before : List Char) :
    lowerAfter before cs = cs := by
  induction cs generalizing before with
  | nil => rfl
  | cons c rest ih =>
    obtain ⟨hsigma, hc⟩ := h c List.mem_cons_self
    rw [lowerAfter, if_neg hsigma, hc, ih fun d hd => h d (List.mem_cons_of_mem _ hd)]
    rfl

theorem lower_lower (cs : List Char) : lower (lower cs) = lower cs :=
  lowerAfter_of_settled (fun _ hd => settled_of_mem_lowerAfter hd) []

/-- `ds` stands for `c`: it is the character, or neither has to do with marks. -/
def StandsFor (c : Char) (ds : List Char) : Prop :=
  ds = [c] ∨ isMark c = false ∧ ds ≠ [] ∧ ∀ d ∈ ds, isMark d = false

/-- The second text is the first with other letters: marks stay as they are. -/
inductive Respelled : List Char → List Char → Prop where
  | nil : Respelled [] []
  | cons {c : Char} {ds cs es : List Char} : StandsFor c ds → Respelled cs es →
      Respelled (c :: cs) (ds ++ es)

theorem respelled_lowerAfter (cs before : List Char) : Respelled cs (lowerAfter before cs) := by
  induction cs generalizing before with
  | nil => exact .nil
  | cons c rest ih =>
    rw [lowerAfter]
    refine .cons ?_ (ih _)
    split
    · rename_i hc
      subst hc
      refine .inr ⟨by decide, by simp, fun d hd => ?_⟩
      rw [List.mem_singleton] at hd
      exact hd ▸ (settled_lowerSigma before rest).2
    · rcases lowerChar_cases c with heq | ⟨hc, hne, hall⟩
      · exact .inl heq
      · exact .inr ⟨hc, hne, fun d hd => (hall d hd).2⟩

theorem respelled_lower (cs : List Char) : Respelled cs (lower cs) := respelled_lowerAfter cs []

theorem StandsFor.ne_nil {c : Char} {ds : List Char} (h : StandsFor c ds) : ds ≠ [] := by
  rcases h with rfl | ⟨-, hne, -⟩
  · simp
  · exact hne

theorem StandsFor.isBlank_eq {c d : Char} {ds : List Char} (h : StandsFor c ds) (hd : d ∈ ds) :
    isBlank d = isBlank c := by
  rcases h with rfl | ⟨hc, -, hall⟩
  · rw [List.mem_singleton.1 hd]
  · rw [isBlank_of_not_mark hc, isBlank_of_not_mark (hall d hd)]

namespace Respelled

variable {cs es : List Char}

theorem eq_nil_iff (h : Respelled cs es) : es = [] ↔ cs = [] := by
  cases h with
  | nil => simp
  | cons hd _ => simp [hd.ne_nil]

theorem mem_of_isMark (h : Respelled cs es) {d : Char} (hd : d ∈ es) (hm : isMark d = true) :
    d ∈ cs := by
  induction h with
  | nil => exact hd
  | @cons c ds cs es hs _ ih =>
    rcases List.mem_append.1 hd with hd | hd
    · rcases hs with rfl | ⟨-, -, hall⟩
      · exact List.mem_singleton.1 hd ▸ List.mem_cons_self
      · exact absurd rfl (ne_of_not_mark (hall d hd) hm)
    · exact List.mem_cons_of_mem _ (ih hd)

theorem countP_isBlank (h : Respelled cs es) : es.countP isBlank = cs.countP isBlank := by
  induction h with
  | nil => rfl
  | @cons c ds cs es hs _ ih =>
    rw [List.countP_append, ih, List.countP_cons, Nat.add_comm]
    congr 1
    rcases hs with rfl | ⟨hc, -, hall⟩
    · simp [List.countP_cons]
    · rw [isBlank_of_not_mark hc]
      exact List.countP_eq_zero.2 fun d hd => by simp [isBlank_of_not_mark (hall d hd)]

theorem trimmed (h : Respelled cs es) (ht : Trimmed cs) : Trimmed es := by
  constructor
  · intro d hd
    cases h with
    | nil => cases hd
    | @cons c ds cs es hs hr =>
      obtain ⟨a, as, rfl⟩ := List.exists_cons_of_ne_nil hs.ne_nil
      cases (show some a = some d by simpa using hd)
      rw [hs.isBlank_eq List.mem_cons_self]
      exact ht.head c rfl
  · have hlast := ht.last
    clear ht
    induction h with
    | nil => intro d hd; cases hd
    | @cons c ds cs es hs hr ih =>
      intro d hd
      rcases cs with - | ⟨c', cs⟩
      · rw [hr.eq_nil_iff.2 rfl, List.append_nil] at hd
        rw [hs.isBlank_eq (List.mem_of_getLast? hd)]
        exact hlast c rfl
      · have hne : es ≠ [] := fun he => by simpa using hr.eq_nil_iff.1 he
        refine ih (fun e he => hlast e ?_) d ?_
        · rw [List.getLast?_cons_cons]
          exact he
        · rw [List.getLast?_append, List.getLast?_eq_some_getLast hne] at hd
          rw [List.getLast?_eq_some_getLast hne]
          exact hd

end Respelled

end ListView.Text
