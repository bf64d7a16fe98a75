import Mathlib.Algebra.GroupWithZero.Nat
import ListView.Filter.Token
import ListView.Proofs.Text.Case

/-!
# Tokens

A text is solid where no blank in it separates tokens; each token is. At a blank
outside quotes a text falls apart (`tokens_append`). Texts joined by single
blanks fall apart into these same texts exactly if they are aligned: each is
solid, and each but the last ends outside quotes. How many tokens a text has,
and how many blanks they keep, is bounded by its own blanks
(`sum_weight_tokens`).
-/

namespace ListView.Token

open Text

/-- No blank separates tokens within the text. -/
def solid (m : Mode) : List Char → Bool
  | [] => true
  | c :: rest => !m.separates c && solid (m.next c) rest

@[simp] theorem solid_nil (m : Mode) : solid m [] = true := rfl

theorem solid_append (m : Mode) (cs ds : List Char) :
    solid m (cs ++ ds) = (solid m cs && solid (m.after cs) ds) := by
  induction cs generalizing m with
  | nil => simp
  | cons c rest ih => simp [solid, ih, Bool.and_assoc]

theorem separates_of_not_blank {c : Char} (h : isBlank c = false) (m : Mode) :
    m.separates c = false := by
  simp [Mode.separates, h]

theorem isBlank_of_separates {m : Mode} {c : Char} (h : m.separates c = true) :
    isBlank c = true := by
  simp only [Mode.separates, Bool.and_eq_true] at h
  exact h.2

theorem solid_of_forall_not_blank {cs : List Char} (h : ∀ c ∈ cs, isBlank c = false) (m : Mode) :
    solid m cs = true := by
  induction cs generalizing m with
  | nil => rfl
  | cons c rest ih =>
    rw [solid, separates_of_not_blank (h c List.mem_cons_self),
      ih fun d hd => h d (List.mem_cons_of_mem _ hd)]
    rfl

/-! ## The scan -/

theorem scan_append {m : Mode} {cs : List Char} (h : solid m cs = true) (current rest : List Char) :
    scan m current (cs ++ rest) = scan (m.after cs) (cs.reverse ++ current) rest := by
  induction cs generalizing m current with
  | nil => rfl
  | cons c cs ih =>
    simp only [solid, Bool.and_eq_true, Bool.not_eq_true'] at h
    rw [List.cons_append, scan, h.1, if_neg Bool.false_ne_true, ih h.2]
    simp

/-- A blank outside quotes ends the scan of what stands before it. -/
theorem scan_append_blank {m : Mode} {cs : List Char} (h : m.after cs = .outside) {c : Char}
    (hc : isBlank c = true) (current rest : List Char) :
    scan m current (cs ++ c :: rest) = scan m current cs ++ scan .outside [] rest := by
  induction cs generalizing m current with
  | nil =>
    have hm : m = .outside := h
    have hsep : m.separates c = true := by simp [Mode.separates, hm, hc]
    rw [List.nil_append, scan, scan, if_pos hsep]
  | cons d cs ih =>
    rw [List.cons_append, scan, scan]
    split
    · rename_i hsep
      rw [Mode.after_cons, Mode.next_of_separates hsep] at h
      rw [ih h, List.append_assoc]
    · exact ih h (d :: current)

theorem mem_scan {m : Mode} {current cs token : List Char} (ht : token ∈ scan m current cs)
    (hc : solid .outside current.reverse = true) (hm : m = Mode.outside.after current.reverse) :
    solid .outside token = true ∧ token ≠ [] := by
  induction cs generalizing m current with
  | nil =>
    rw [scan] at ht
    split at ht
    · cases ht
    · rename_i hne
      rw [List.mem_singleton.1 ht]
      exact ⟨hc, by simpa using hne⟩
  | cons c rest ih =>
    rw [scan] at ht
    split at ht
    · rcases List.mem_append.1 ht with ht | ht
      · split at ht
        · cases ht
        · rename_i hne
          rw [List.mem_singleton.1 ht]
          exact ⟨hc, by simpa using hne⟩
      · exact ih ht rfl rfl
    · rename_i hsep
      refine ih ht ?_ ?_
      · simp [solid_append, hc, ← hm, solid, hsep]
      · simp [Mode.after_append, ← hm]

theorem solid_of_mem_tokens {cs token : List Char} (h : token ∈ tokens cs) :
    solid .outside token = true := (mem_scan h rfl rfl).1

theorem ne_nil_of_mem_tokens {cs token : List Char} (h : token ∈ tokens cs) : token ≠ [] :=
  (mem_scan h rfl rfl).2

/-! ## Joined texts -/

/-- Each text is solid, and each but the last ends outside quotes. -/
def Aligned : List (List Char) → Prop
  | [] => True
  | [cs] => solid .outside cs = true
  | cs :: ds :: rest =>
    solid .outside cs = true ∧ Mode.outside.after cs = .outside ∧ Aligned (ds :: rest)

theorem tokens_of_solid {cs : List Char} (h : solid .outside cs = true) (hne : cs ≠ []) :
    tokens cs = [cs] := by
  have hscan := scan_append h [] []
  rw [List.append_nil, List.append_nil] at hscan
  rw [tokens, hscan, scan]
  simp [hne]

theorem tokens_of_forall_blank {cs : List Char} (h : ∀ c ∈ cs, isBlank c = true) :
    tokens cs = [] := by
  induction cs with
  | nil => rfl
  | cons c rest ih =>
    have hsep : Mode.outside.separates c = true := h c List.mem_cons_self
    rw [tokens, scan, if_pos hsep, ← tokens, ih fun d hd => h d (List.mem_cons_of_mem c hd)]
    rfl

/-- Texts with a blank between them fall apart there if the first ends outside quotes. -/
theorem tokens_append {cs : List Char} (h : Mode.outside.after cs = .outside) {c : Char}
    (hc : isBlank c = true) (ds : List Char) : tokens (cs ++ c :: ds) = tokens cs ++ tokens ds :=
  scan_append_blank h hc [] ds

theorem tokens_append_blank {cs : List Char} (h : solid .outside cs = true)
    (hend : Mode.outside.after cs = .outside) (hne : cs ≠ []) (rest : List Char) :
    tokens (cs ++ ' ' :: rest) = cs :: tokens rest := by
  rw [tokens_append hend (by decide), tokens_of_solid h hne]
  rfl

/-- Aligned texts are the tokens of what they are joined to. -/
theorem tokens_intercalate {texts : List (List Char)} (h : Aligned texts)
    (hne : ∀ cs ∈ texts, cs ≠ []) : tokens ([' '].intercalate texts) = texts := by
  induction texts with
  | nil => rfl
  | cons cs rest ih =>
    have hcs := hne cs List.mem_cons_self
    cases rest with
    | nil =>
      rw [List.intercalate_singleton]
      exact tokens_of_solid h hcs
    | cons ds rest =>
      obtain ⟨hsolid, hend, hrest⟩ := h
      rw [List.intercalate_cons_cons, List.append_assoc, List.singleton_append,
        tokens_append_blank hsolid hend hcs, ih hrest fun es hes => hne es (.tail _ hes)]

/-! ## Counting blanks -/

/-- One more than the blanks of a text: what it takes of a text whose tokens are joined by single
blanks. -/
def weight (cs : List Char) : Nat := cs.countP isBlank + 1

theorem sum_weight_current (current : List Char) :
    ((if current.isEmpty then [] else [current.reverse]).map weight).sum ≤ weight current := by
  split <;> simp [weight]

theorem sum_weight_scan (m : Mode) (current cs : List Char) :
    ((scan m current cs).map weight).sum ≤ weight (current ++ cs) := by
  induction cs generalizing m current with
  | nil =>
    rw [List.append_nil]
    exact sum_weight_current current
  | cons c rest ih =>
    rw [scan]
    split
    · rename_i hsep
      have hcur := sum_weight_current current
      have hrest := ih .outside []
      rw [List.map_append, List.sum_append]
      simp only [weight, List.countP_append, List.countP_cons, isBlank_of_separates hsep, if_true,
        List.nil_append] at hcur hrest ⊢
      omega
    · have hrest := ih (m.next c) (c :: current)
      simp only [weight, List.countP_append, List.countP_cons, List.cons_append] at hrest ⊢
      omega

/-- The tokens of a text and the blanks in them are no more than its own blanks allow. -/
theorem sum_weight_tokens (cs : List Char) : ((tokens cs).map weight).sum ≤ weight cs :=
  sum_weight_scan .outside [] cs

theorem weight_intercalate {texts : List (List Char)} (h : texts ≠ []) :
    weight ([' '].intercalate texts) = (texts.map weight).sum := by
  induction texts with
  | nil => exact absurd rfl h
  | cons cs rest ih =>
    cases rest with
    | nil => simp
    | cons ds rest =>
      have hrest := ih (List.cons_ne_nil ds rest)
      have hspace : isBlank ' ' = true := by decide
      rw [List.intercalate_cons_cons, List.map_cons, List.sum_cons, ← hrest]
      simp only [weight, List.countP_append, List.countP_cons, List.countP_nil, hspace, if_true]
      omega

/-! ## The first token -/

/-- The text up to the first blank that separates tokens. -/
def firstToken (m : Mode) : List Char → List Char
  | [] => []
  | c :: rest => if m.separates c then [] else c :: firstToken (m.next c) rest

theorem scan_eq_cons (m : Mode) (current cs : List Char)
    (h : current.reverse ++ firstToken m cs ≠ []) :
    ∃ rest, scan m current cs = (current.reverse ++ firstToken m cs) :: rest := by
  induction cs generalizing m current with
  | nil =>
    rw [firstToken, List.append_nil] at h ⊢
    exact ⟨[], by rw [scan, if_neg (by simpa using h)]⟩
  | cons c rest ih =>
    rw [firstToken] at h ⊢
    rw [scan]
    split at h
    · rename_i hsep
      rw [List.append_nil] at h
      simp only [hsep, if_true, List.append_nil]
      exact ⟨scan .outside [] rest, by rw [if_neg (by simpa using h)]; rfl⟩
    · rename_i hsep
      simp only [hsep, Bool.false_eq_true, if_false]
      simpa using ih (m.next c) (c :: current) (by simp)

theorem tokens_eq_cons {cs : List Char} (h : firstToken .outside cs ≠ []) :
    ∃ rest, tokens cs = firstToken .outside cs :: rest := scan_eq_cons .outside [] cs h

theorem firstToken_append {m : Mode} {cs : List Char} (h : solid m cs = true) (rest : List Char) :
    firstToken m (cs ++ rest) = cs ++ firstToken (m.after cs) rest := by
  induction cs generalizing m with
  | nil => rfl
  | cons c cs ih =>
    simp only [solid, Bool.and_eq_true, Bool.not_eq_true'] at h
    rw [List.cons_append, firstToken, h.1, if_neg Bool.false_ne_true, ih h.2]
    rfl

/-- A text that is not solid loses a blank and what follows. -/
theorem exists_firstToken_append {m : Mode} {cs : List Char} (h : solid m cs = false) :
    ∃ c after, isBlank c = true ∧ ∀ rest, firstToken m (cs ++ rest) ++ c :: after = cs := by
  induction cs generalizing m with
  | nil => cases h
  | cons c cs ih =>
    simp only [solid, Bool.and_eq_false_iff, Bool.not_eq_false'] at h
    by_cases hsep : m.separates c = true
    · exact ⟨c, cs, isBlank_of_separates hsep, fun rest => by simp [firstToken, hsep]⟩
    · obtain ⟨d, after, hd, heq⟩ := ih (h.resolve_left hsep)
      exact ⟨d, after, hd, fun rest => by simp [firstToken, hsep, heq rest]⟩

theorem weight_firstToken_lt {cs : List Char} (h : solid .outside cs = false) (rest : List Char) :
    weight (firstToken .outside (cs ++ rest)) < weight cs := by
  obtain ⟨c, after, hc, heq⟩ := exists_firstToken_append h
  have hcount := congrArg (List.countP isBlank) (heq rest)
  rw [List.countP_append, List.countP_cons, if_pos hc] at hcount
  simp only [weight]
  omega

theorem weight_lt_firstToken {cs : List Char} (h : solid .outside cs = true)
    (hend : Mode.outside.after cs ≠ .outside) (rest : List Char) :
    weight cs < weight (firstToken .outside (cs ++ ' ' :: rest)) := by
  have hsep : (Mode.outside.after cs).separates ' ' = false := by simp [Mode.separates, hend]
  have hspace : isBlank ' ' = true := by decide
  rw [firstToken_append h, firstToken, hsep, if_neg Bool.false_ne_true]
  simp only [weight, List.countP_append, List.countP_cons, hspace, if_true]
  omega

/-! ## Respelling -/

/-- The mode after any character that is no mark. -/
def Mode.settled : Mode → Mode
  | .outside => .outside
  | .quoted | .escaped => .quoted

theorem next_of_not_mark {c : Char} (h : isMark c = false) (m : Mode) : m.next c = m.settled := by
  have hq := ne_of_not_mark h (show isMark '"' = true by decide)
  have hb := ne_of_not_mark h (show isMark '\\' = true by decide)
  cases m <;> simp [Mode.next, Mode.settled, hq, hb]

theorem after_of_not_marks {cs : List Char} (h : ∀ c ∈ cs, isMark c = false) (hne : cs ≠ [])
    (m : Mode) : m.after cs = m.settled := by
  induction cs generalizing m with
  | nil => exact absurd rfl hne
  | cons c rest ih =>
    rw [Mode.after_cons, next_of_not_mark (h c List.mem_cons_self)]
    cases rest with
    | nil => rfl
    | cons d rest =>
      rw [ih (fun e he => h e (List.mem_cons_of_mem _ he)) (List.cons_ne_nil _ _)]
      cases m <;> rfl

theorem after_of_standsFor {c : Char} {ds : List Char} (h : StandsFor c ds) (m : Mode) :
    m.after ds = m.next c := by
  rcases h with rfl | ⟨hc, hne, hall⟩
  · rfl
  · rw [after_of_not_marks hall hne, next_of_not_mark hc]

theorem solid_of_standsFor {c : Char} {ds : List Char} (h : StandsFor c ds) (m : Mode) :
    solid m ds = !m.separates c := by
  rcases h with rfl | ⟨hc, -, hall⟩
  · simp [solid]
  · rw [separates_of_not_blank (isBlank_of_not_mark hc),
      solid_of_forall_not_blank fun d hd => isBlank_of_not_mark (hall d hd)]
    rfl

theorem solid_of_respelled {cs ds : List Char} (h : Respelled cs ds) (m : Mode) :
    solid m ds = solid m cs := by
  induction h generalizing m with
  | nil => rfl
  | cons hs _ ih => rw [solid_append, solid_of_standsFor hs, after_of_standsFor hs, ih, solid]

end ListView.Token
