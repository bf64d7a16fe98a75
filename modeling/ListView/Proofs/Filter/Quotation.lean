import Mathlib.Algebra.Group.Nat.Even
import Mathlib.Data.List.Basic
import Mathlib.Data.List.Induction
import ListView.Filter.Quotation
import ListView.Proofs.Filter.Token

/-!
# Quoted values

Decoding undoes encoding, and leaves a text without quotes as it is. What it
gives is what the text spells (`decode_eq_iff`): the inside of a quoted text
without its escapes, and any other text itself. A quoted text is solid as a part
of a filter text and ends outside quotes. Neither writing nor reading a value
adds a blank to it.
-/

namespace ListView.Quotation

open Text Token

theorem escape_append (cs ds : List Char) : escape (cs ++ ds) = escape cs ++ escape ds := by
  induction cs with
  | nil => rfl
  | cons c rest ih =>
    simp only [List.cons_append, escape, ih]
    split <;> rfl

/-- An escaped text ends in an even run of backslashes. -/
theorem endsEscaped_escape (cs : List Char) : endsEscaped (escape cs) = false := by
  induction cs using List.reverseRecOn with
  | nil => rfl
  | append_singleton front c ih =>
    rw [escape_append]
    simp only [endsEscaped, List.reverse_append, decide_eq_false_iff_not] at ih ⊢
    by_cases hb : c = '\\'
    · subst hb
      simp only [escape, decide_true, Bool.or_true, if_true, List.reverse_cons,
        List.reverse_nil, List.nil_append, List.cons_append, List.takeWhile_cons, List.length_cons]
      omega
    · by_cases hq : c = '"'
      · subst hq
        simp [escape]
      · simp [escape, hb, hq]

theorem decode_encode (cs : List Char) : decode (encode cs) = cs := by
  have hinside : inside? (encode cs) = some (escape cs) := by
    rw [encode, List.cons_append, inside?]
    simp [endsEscaped_escape]
  rw [decode, hinside]
  exact unescape_escape cs

theorem decode_of_not_mem {cs : List Char} (h : '"' ∉ cs) : decode cs = cs := by
  have hinside : inside? cs = none := by
    unfold inside?
    split
    · simp at h
    · rfl
  rw [decode, hinside]

theorem trimmed_encode (cs : List Char) : Trimmed (encode cs) := by
  constructor
  · intro c hc
    cases (show some '"' = some c from hc)
    decide
  · intro c hc
    rw [encode, List.getLast?_append] at hc
    cases (show some '"' = some c from hc)
    decide

/-! ## What a text spells -/

/-- The number of backslashes at the end of a text. -/
def slashesAtEnd (cs : List Char) : Nat := (cs.reverse.takeWhile (· = '\\')).length

theorem endsEscaped_eq_false_iff {cs : List Char} :
    endsEscaped cs = false ↔ Even (slashesAtEnd cs) := by
  simp [endsEscaped, slashesAtEnd, Nat.even_iff]

/-- The second text is the first without its backslashes; the character after each stays. -/
inductive Unescaped : List Char → List Char → Prop
  | nil : Unescaped [] []
  | plain {c : Char} {inner value : List Char} (hc : c ≠ '\\') (h : Unescaped inner value) :
      Unescaped (c :: inner) (c :: value)
  | escaped (c : Char) {inner value : List Char} (h : Unescaped inner value) :
      Unescaped ('\\' :: c :: inner) (c :: value)

/-- The value that a text stands for: its inside without the escapes if it is quoted, with the
closing quote not escaped, and else the text itself. -/
inductive Spells : List Char → List Char → Prop
  | quoted {inner value : List Char} (hend : Even (slashesAtEnd inner))
      (h : Unescaped inner value) : Spells ('"' :: inner ++ ['"']) value
  | bare {written : List Char}
      (h : ∀ inner, written = '"' :: inner ++ ['"'] → ¬ Even (slashesAtEnd inner)) :
      Spells written written

/-- The run of backslashes at the end does not reach beyond another character. -/
theorem endsEscaped_append_cons {c : Char} (hc : c ≠ '\\') (front rest : List Char) :
    endsEscaped (front ++ c :: rest) = endsEscaped rest := by
  have hrun : (rest.reverse ++ c :: front.reverse).takeWhile (· = '\\') =
      rest.reverse.takeWhile (· = '\\') := by
    rw [List.takeWhile_append]
    split
    · rename_i hall
      simp [hc, (List.takeWhile_prefix _).eq_of_length hall]
    · rfl
  rw [endsEscaped, List.reverse_append, List.reverse_cons, List.append_assoc, List.singleton_append,
    hrun, endsEscaped]

/-- A backslash and what it escapes leave the parity of the run at the end as it is. -/
theorem endsEscaped_cons_cons (c : Char) (rest : List Char) :
    endsEscaped ('\\' :: c :: rest) = endsEscaped rest := by
  by_cases hc : c = '\\'
  · subst hc
    rw [endsEscaped, endsEscaped, List.reverse_cons, List.reverse_cons, List.append_assoc,
      List.takeWhile_append]
    split
    · rename_i hall
      simp [(List.takeWhile_prefix _).eq_of_length hall]
    · rfl
  · exact endsEscaped_append_cons hc ['\\'] rest

theorem unescaped_unescape {inner : List Char} (h : endsEscaped inner = false) :
    Unescaped inner (unescape inner) := by
  induction inner using unescape.induct with
  | case1 => exact .nil
  | case2 c rest ih =>
    rw [endsEscaped_cons_cons] at h
    exact .escaped c (ih h)
  | case3 => exact absurd h (by decide)
  | case4 c rest hpair hsingle ih =>
    have hc : c ≠ '\\' := by
      rintro rfl
      cases rest with
      | nil => exact hsingle rfl rfl
      | cons d rest => exact hpair d rest rfl rfl
    have hrest : endsEscaped rest = false := endsEscaped_append_cons hc [] rest ▸ h
    rw [unescape]
    · exact .plain hc (ih hrest)
    · exact hpair
    · exact hsingle

theorem Unescaped.unescape_eq {inner value : List Char} (h : Unescaped inner value) :
    unescape inner = value := by
  induction h with
  | nil => rfl
  | plain hc h ih =>
    rw [unescape, ih]
    · exact fun _ _ hslash _ => hc hslash
    · exact fun hslash _ => hc hslash
  | escaped c h ih => rw [unescape, ih]

theorem inside?_eq_some_iff {written inner : List Char} :
    inside? written = some inner ↔
      written = '"' :: inner ++ ['"'] ∧ Even (slashesAtEnd inner) := by
  rw [← endsEscaped_eq_false_iff]
  constructor
  · intro h
    unfold inside? at h
    split at h
    · rename_i rest
      split at h
      · rename_i hend
        simp only [Bool.and_eq_true, decide_eq_true_eq, Bool.not_eq_true'] at hend
        cases h
        rw [List.cons_append, List.dropLast_append_getLast? _ hend.1]
        exact ⟨rfl, hend.2⟩
      · cases h
    · cases h
  · rintro ⟨rfl, hend⟩
    simp [inside?, hend]

theorem decode_eq_iff {written value : List Char} :
    decode written = value ↔ Spells written value := by
  constructor
  · rintro rfl
    unfold decode
    split
    · rename_i inner hinside
      obtain ⟨rfl, hend⟩ := inside?_eq_some_iff.1 hinside
      exact .quoted hend (unescaped_unescape (endsEscaped_eq_false_iff.2 hend))
    · rename_i hinside
      refine .bare fun inner hquoted hend => ?_
      rw [inside?_eq_some_iff.2 ⟨hquoted, hend⟩] at hinside
      cases hinside
  · rintro (⟨hend, h⟩ | h)
    · rw [decode, inside?_eq_some_iff.2 ⟨rfl, hend⟩]
      exact h.unescape_eq
    · have hinside : inside? written = none :=
        Option.eq_none_iff_forall_ne_some.2 fun inner hinner =>
          have ⟨hquoted, hend⟩ := inside?_eq_some_iff.1 hinner
          h inner hquoted hend
      rw [decode, hinside]

/-! ## As part of a filter text -/

theorem after_escape (cs : List Char) : Mode.quoted.after (escape cs) = .quoted := by
  induction cs with
  | nil => rfl
  | cons c rest ih =>
    by_cases hq : c = '"'
    · simpa [escape, hq, Mode.next] using ih
    · by_cases hb : c = '\\'
      · simpa [escape, hb, Mode.next] using ih
      · simpa [escape, hq, hb, Mode.next] using ih

theorem solid_escape (cs : List Char) : solid .quoted (escape cs) = true := by
  induction cs with
  | nil => rfl
  | cons c rest ih =>
    by_cases hq : c = '"'
    · simpa [escape, hq, solid, Mode.separates, Mode.next] using ih
    · by_cases hb : c = '\\'
      · simpa [escape, hb, solid, Mode.separates, Mode.next] using ih
      · simpa [escape, hq, hb, solid, Mode.separates, Mode.next] using ih

theorem solid_encode (cs : List Char) : solid .outside (encode cs) = true := by
  have hquote : isBlank '"' = false := by decide
  rw [encode, List.cons_append, solid, separates_of_not_blank hquote,
    show Mode.outside.next '"' = .quoted from rfl, solid_append, solid_escape, after_escape]
  rfl

theorem after_encode (cs : List Char) : Mode.outside.after (encode cs) = .outside := by
  rw [encode, List.cons_append, Mode.after_cons, show Mode.outside.next '"' = .quoted from rfl,
    Mode.after_append, after_escape]
  rfl

/-! ## Blanks -/

theorem countP_escape (cs : List Char) : (escape cs).countP isBlank = cs.countP isBlank := by
  have hslash : isBlank '\\' = false := by decide
  induction cs with
  | nil => rfl
  | cons c rest ih =>
    rw [escape]
    split <;> simp [ih, List.countP_cons, hslash]

theorem countP_encode (cs : List Char) : (encode cs).countP isBlank = cs.countP isBlank := by
  have hquote : isBlank '"' = false := by decide
  simp [encode, hquote, countP_escape]

theorem unescape_sublist (cs : List Char) : (unescape cs).Sublist cs := by
  induction cs using unescape.induct with
  | case1 => exact .slnil
  | case2 c rest ih =>
    rw [unescape]
    exact (ih.cons_cons c).cons _
  | case3 => exact List.nil_sublist _
  | case4 c rest hc hn ih =>
    rw [unescape]
    · exact ih.cons_cons c
    · exact hc
    · exact hn

theorem decode_sublist (cs : List Char) : (decode cs).Sublist cs := by
  unfold decode
  split
  · rename_i inner hinside
    refine (unescape_sublist inner).trans ?_
    unfold inside? at hinside
    split at hinside
    · split at hinside
      · cases hinside
        exact (List.dropLast_sublist _).cons _
      · cases hinside
    · cases hinside
  · exact .refl _

end ListView.Quotation
