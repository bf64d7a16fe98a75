import Mathlib.Data.List.DropRight
import Mathlib.Data.List.TakeWhile
import ListView.Text.Blank

/-!
# Trimming

A trimmed text has no blank at either end. `trim` gives such a text and leaves
one as it is. Around a part that is trimmed, each end is trimmed on its own
(`Trimmed.trim_between`), and it does not matter which end comes first
(`trimStart_trimEnd`).
-/

namespace ListView.Text

/-- Neither end of the text is a blank. -/
structure Trimmed (cs : List Char) : Prop where
  head : ∀ c, cs.head? = some c → isBlank c = false
  last : ∀ c, cs.getLast? = some c → isBlank c = false

theorem head_trimStart {cs : List Char} {c : Char} (h : (trimStart cs).head? = some c) :
    isBlank c = false := by
  have hnot := List.head?_dropWhile_not isBlank cs
  rw [trimStart] at h
  rw [h] at hnot
  simpa using hnot

theorem trimEnd_prefix_self (cs : List Char) : trimEnd cs <+: cs := by
  refine ⟨(cs.reverse.takeWhile isBlank).reverse, ?_⟩
  rw [trimEnd, ← List.reverse_append, List.takeWhile_append_dropWhile, List.reverse_reverse]

theorem trim_sublist (cs : List Char) : (trim cs).Sublist cs :=
  (trimEnd_prefix_self (trimStart cs)).sublist.trans (List.dropWhile_sublist isBlank)

/-- Nothing is left of a text of blanks, and of no other. -/
theorem trim_eq_nil_iff {cs : List Char} : trim cs = [] ↔ ∀ c ∈ cs, isBlank c = true := by
  rw [trim, trimEnd, List.reverse_eq_nil_iff, List.dropWhile_eq_nil_iff]
  simp only [List.mem_reverse]
  constructor
  · intro h
    have hstart : trimStart cs = [] := by
      cases hs : trimStart cs with
      | nil => rfl
      | cons c rest =>
        have hc : isBlank c = false := @head_trimStart cs c (by rw [hs]; rfl)
        rw [hs] at h
        rw [h c List.mem_cons_self] at hc
        cases hc
    exact List.dropWhile_eq_nil_iff.1 hstart
  · intro h c hc
    exact h c ((List.dropWhile_sublist isBlank).subset hc)

theorem trimmed_trim (cs : List Char) : Trimmed (trim cs) := by
  constructor
  · intro c hc
    obtain ⟨after, he⟩ := trimEnd_prefix_self (trimStart cs)
    refine @head_trimStart cs _ ?_
    rw [← he, List.head?_append, ← trim, hc]
    rfl
  · intro c hc
    have hnot := List.head?_dropWhile_not isBlank (trimStart cs).reverse
    rw [trim, trimEnd, List.getLast?_reverse] at hc
    rw [hc] at hnot
    simpa using hnot

theorem Trimmed.trimStart_eq {cs : List Char} (h : Trimmed cs) : trimStart cs = cs := by
  cases cs with
  | nil => rfl
  | cons c rest => exact trimStart_cons_of_not_blank (h.head c rfl)

theorem Trimmed.trim_eq {cs : List Char} (h : Trimmed cs) : trim cs = cs := by
  rw [trim, h.trimStart_eq]
  rcases List.eq_nil_or_concat cs with rfl | ⟨front, c, rfl⟩
  · rfl
  · rw [List.concat_eq_append] at h ⊢
    exact trimEnd_concat_of_not_blank (h.last c (by simp))

/-- In front of a text that begins with no blank, only the start is trimmed. -/
theorem trimStart_append {cs : List Char} (h : ∀ c, cs.head? = some c → isBlank c = false)
    (hne : cs ≠ []) (front : List Char) : trimStart (front ++ cs) = trimStart front ++ cs := by
  have hcs : cs.dropWhile isBlank = cs := by
    cases cs with
    | nil => rfl
    | cons c rest => exact trimStart_cons_of_not_blank (h c rfl)
  rw [trimStart, List.dropWhile_append]
  split
  · rename_i hfront
    rw [hcs, trimStart, List.isEmpty_iff.1 hfront, List.nil_append]
  · rfl

/-- Behind a text that ends in no blank, only the end is trimmed. -/
theorem trimEnd_append {cs : List Char} (h : ∀ c, cs.getLast? = some c → isBlank c = false)
    (hne : cs ≠ []) (ds : List Char) : trimEnd (cs ++ ds) = cs ++ trimEnd ds := by
  have hhead : ∀ c, cs.reverse.head? = some c → isBlank c = false := fun c hc =>
    h c (by rwa [List.head?_reverse] at hc)
  have hreverse := trimStart_append hhead (by simpa using hne) ds.reverse
  rw [trimStart] at hreverse
  rw [trimEnd, List.reverse_append, hreverse, List.reverse_append, List.reverse_reverse]
  rfl

/-- Around a trimmed text that is not empty, only the outer ends are trimmed. -/
theorem Trimmed.trim_between {cs : List Char} (h : Trimmed cs) (hne : cs ≠ [])
    (front ds : List Char) : trim (front ++ cs ++ ds) = trimStart front ++ cs ++ trimEnd ds := by
  have hhead : ∀ c, (cs ++ ds).head? = some c → isBlank c = false := fun c hc =>
    h.head c (by rwa [List.head?_append_of_ne_nil _ hne] at hc)
  have hlast : ∀ c, (trimStart front ++ cs).getLast? = some c → isBlank c = false := fun c hc =>
    h.last c (by rwa [List.getLast?_append_of_ne_nil _ hne] at hc)
  rw [trim, List.append_assoc, trimStart_append hhead (by simp [hne]), ← List.append_assoc,
    trimEnd_append hlast (by simp [hne])]

theorem trimEnd_cons (c : Char) (cs : List Char) :
    trimEnd (c :: cs) = if trimEnd cs = [] ∧ isBlank c = true then [] else c :: trimEnd cs := by
  rw [trimEnd, List.reverse_cons, List.dropWhile_append]
  by_cases hnil : cs.reverse.dropWhile isBlank = []
  · cases hc : isBlank c <;> simp [trimEnd, hnil, hc]
  · simp [trimEnd, hnil]

/-- What is left of a text begins with its first character that is not a blank. -/
theorem head?_trim (cs : List Char) : (trim cs).head? = cs.find? (!isBlank ·) := by
  rw [List.find?_eq_head?_dropWhile_not, trim]
  simp only [Bool.not_not]
  show (trimEnd (trimStart cs)).head? = (trimStart cs).head?
  cases hstart : trimStart cs with
  | nil => rfl
  | cons c rest =>
    have hc : isBlank c = false := @head_trimStart cs c (by rw [hstart]; rfl)
    rw [trimEnd_cons, if_neg (by simp [hc])]
    rfl

/-- The two ends are trimmed in either order. -/
theorem trimStart_trimEnd (cs : List Char) : trimStart (trimEnd cs) = trim cs := by
  rw [trim]
  induction cs with
  | nil => rfl
  | cons c rest ih =>
    cases hc : isBlank c with
    | false =>
      rw [trimStart_cons_of_not_blank hc, trimEnd_cons, if_neg (by simp [hc]),
        trimStart_cons_of_not_blank hc]
    | true =>
      have hstart : ∀ ds, trimStart (c :: ds) = trimStart ds := fun ds => by
        rw [trimStart, List.dropWhile_cons_of_pos hc, trimStart]
      rw [hstart, ← ih, trimEnd_cons]
      split
      · rename_i hnil
        rw [hnil.1]
      · rw [hstart]

theorem trim_trimStart (cs : List Char) : trim (trimStart cs) = trim cs := by
  rw [trim, trimStart, trimStart, List.dropWhile_idempotent]
  rfl

theorem trim_trimEnd (cs : List Char) : trim (trimEnd cs) = trim cs := by
  rw [trim, trimStart_trimEnd, trim, trimEnd, trimEnd, List.reverse_reverse,
    List.dropWhile_idempotent]

theorem trimmed_of_forall_not_blank {cs : List Char} (h : ∀ c ∈ cs, isBlank c = false) :
    Trimmed cs :=
  ⟨fun c hc => h c (List.mem_of_head? hc), fun c hc => h c (List.mem_of_getLast? hc)⟩

end ListView.Text
