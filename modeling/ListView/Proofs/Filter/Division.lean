import Mathlib.Data.List.Pairwise
import ListView.Proofs.Filter.Token

/-!
# The division of a text into tokens

A quoted segment opens at a quote outside quotes, and closes at the next quote
that no backslash escapes, or not at all. This is said here without the scan
(`Inner`, `Closed`); a blank outside the segments separates tokens
(`Separator`).

The scan divides a text into solid texts between separators, which can be done
in one way only (`divided_iff`). From this follow where each token stands in the
text (`Placed`), and that nothing but the separators is lost. The tokens joined
by single blanks have these same tokens (`lossless_tokens`).
-/

namespace ListView.Token

open Text

/-! ## Quoted segments -/

/-- What stands between the two quotes of a segment: each backslash escapes the character behind
it, and no quote stands there unescaped. -/
inductive Inner : List Char → Prop
  | nil : Inner []
  | plain {c : Char} {cs : List Char} (hquote : c ≠ '"') (hslash : c ≠ '\\') (h : Inner cs) :
      Inner (c :: cs)
  | escaped (c : Char) {cs : List Char} (h : Inner cs) : Inner ('\\' :: c :: cs)

/-- Each quoted segment of the text is closed, so the text ends outside quotes. -/
inductive Closed : List Char → Prop
  | nil : Closed []
  | plain {c : Char} {cs : List Char} (hquote : c ≠ '"') (h : Closed cs) : Closed (c :: cs)
  | segment {inner cs : List Char} (hinner : Inner inner) (h : Closed cs) :
      Closed ('"' :: inner ++ '"' :: cs)

theorem closed_quote_iff {cs : List Char} :
    Closed ('"' :: cs) ↔ ∃ inner rest, cs = inner ++ '"' :: rest ∧ Inner inner ∧ Closed rest := by
  constructor
  · intro h
    cases h with
    | plain hquote => exact absurd rfl hquote
    | segment hinner hrest => exact ⟨_, _, rfl, hinner, hrest⟩
  · rintro ⟨inner, rest, rfl, hinner, hrest⟩
    exact .segment hinner hrest

theorem Inner.after_eq {cs : List Char} (h : Inner cs) : Mode.quoted.after cs = .quoted := by
  induction h with
  | nil => rfl
  | plain hquote hslash _ ih => simpa [Mode.next, hquote, hslash] using ih
  | escaped c _ ih => simpa [Mode.next] using ih

theorem Closed.after_eq {cs : List Char} (h : Closed cs) : Mode.outside.after cs = .outside := by
  induction h with
  | nil => rfl
  | plain hquote _ ih => simpa [Mode.next, hquote] using ih
  | segment hinner _ ih =>
    rw [List.cons_append, Mode.after_cons, show Mode.outside.next '"' = .quoted from rfl,
      Mode.after_append, hinner.after_eq]
    exact ih

/-- A text that leads to the mode. -/
def Mode.opening : Mode → List Char
  | .outside => []
  | .quoted => ['"']
  | .escaped => ['"', '\\']

theorem closed_opening_append {m : Mode} {cs : List Char} (h : m.after cs = .outside) :
    Closed (m.opening ++ cs) := by
  -- Within quotes, the character is put into the segment that the rest goes on with.
  induction cs generalizing m with
  | nil =>
    cases (show m = .outside from h)
    exact .nil
  | cons c rest ih =>
    have hnext := ih h
    cases m with
    | outside =>
      by_cases hquote : c = '"'
      · simpa [Mode.next, Mode.opening, hquote] using hnext
      · exact .plain hquote (by simpa [Mode.next, Mode.opening, hquote] using hnext)
    | quoted =>
      by_cases hquote : c = '"'
      · subst hquote
        exact .segment .nil hnext
      · by_cases hslash : c = '\\'
        · simpa [Mode.next, Mode.opening, hquote, hslash] using hnext
        · simp only [Mode.next, hquote, hslash, if_false] at hnext
          obtain ⟨inner, after, rfl, hinner, hafter⟩ := closed_quote_iff.1 hnext
          exact .segment (.plain hquote hslash hinner) hafter
    | escaped =>
      obtain ⟨inner, after, rfl, hinner, hafter⟩ := closed_quote_iff.1 hnext
      exact .segment (.escaped c hinner) hafter

theorem closed_iff {cs : List Char} : Closed cs ↔ Mode.outside.after cs = .outside :=
  ⟨Closed.after_eq, closed_opening_append⟩

instance : DecidablePred Closed := fun _ => decidable_of_iff _ closed_iff.symm

/-! ## Separators -/

/-- A blank outside quoted segments stands at this place of the text. -/
def Separator (cs : List Char) (i : Nat) : Prop :=
  cs[i]?.any isBlank = true ∧ Closed (cs.take i)

instance (cs : List Char) : DecidablePred (Separator cs) :=
  fun _ => inferInstanceAs (Decidable (_ ∧ _))

/-- A separator stands between the two places. -/
def Apart (cs : List Char) (i j : Nat) : Prop :=
  ∃ k, Separator cs k ∧ (i < k ∧ k < j ∨ j < k ∧ k < i)

theorem Apart.symm {cs : List Char} {i j : Nat} (h : Apart cs i j) : Apart cs j i :=
  have ⟨k, hsep, hk⟩ := h
  ⟨k, hsep, hk.symm⟩

/-- A part of a text that stands from place `n` on, without the separators of the whole. -/
def keptFrom (whole : List Char) (n : Nat) (part : List Char) : List Char :=
  ((part.zipIdx n).filter fun p => ¬ Separator whole p.2).map Prod.fst

/-- The text without its separators. -/
def kept (cs : List Char) : List Char := keptFrom cs 0 cs

theorem keptFrom_append (whole : List Char) (n : Nat) (cs ds : List Char) :
    keptFrom whole n (cs ++ ds) = keptFrom whole n cs ++ keptFrom whole (n + cs.length) ds := by
  simp [keptFrom, List.zipIdx_append]

theorem keptFrom_cons_of_separator {whole : List Char} {n : Nat} (h : Separator whole n) (c : Char)
    (rest : List Char) : keptFrom whole n (c :: rest) = keptFrom whole (n + 1) rest := by
  simp [keptFrom, h]

theorem keptFrom_eq_self {whole : List Char} {n : Nat} {part : List Char}
    (h : ∀ i, n ≤ i → i < n + part.length → ¬ Separator whole i) :
    keptFrom whole n part = part := by
  have hall : ∀ p ∈ part.zipIdx n, decide (¬ Separator whole p.2) = true := by
    intro p hp
    obtain ⟨hle, hlt, -⟩ := List.mem_zipIdx (x := p.1) (i := p.2) hp
    exact decide_eq_true (h p.2 hle hlt)
  rw [keptFrom, List.filter_eq_self.2 hall, List.zipIdx_map_fst]

theorem lt_length_of_separator {cs : List Char} {i : Nat} (h : Separator cs i) : i < cs.length := by
  by_contra hle
  have hblank := h.1
  simp [List.getElem?_eq_none (Nat.le_of_not_lt hle)] at hblank

theorem separator_append_cons {front : List Char} {c : Char} {rest : List Char} :
    Separator (front ++ c :: rest) front.length ↔
      (Mode.outside.after front).separates c = true := by
  simp [Separator, closed_iff, Mode.separates, and_comm]

section Behind

variable {front : List Char} (hfront : Mode.outside.after front = .outside)

include hfront

theorem separator_of_blank {c : Char} (hc : isBlank c = true) (rest : List Char) :
    Separator (front ++ c :: rest) front.length := by
  rw [separator_append_cons, hfront]
  exact hc

theorem after_concat_blank {c : Char} (hc : isBlank c = true) :
    Mode.outside.after (front ++ [c]) = .outside := by
  rw [Mode.after_append, hfront]
  exact @Mode.next_of_separates .outside c hc

/-- A blank separates just as well behind another text that ends outside quotes. -/
theorem separator_behind {token : List Char} (hend : Mode.outside.after token = .outside) {c : Char}
    (hc : isBlank c = true) (rest : List Char) :
    Separator (front ++ (token ++ c :: rest)) (front.length + token.length) ∧
      Mode.outside.after (front ++ token ++ [c]) = .outside := by
  have hboth : Mode.outside.after (front ++ token) = .outside := by
    rw [Mode.after_append, hfront, hend]
  have hsep := separator_of_blank hboth hc rest
  rw [List.append_assoc, List.length_append] at hsep
  exact ⟨hsep, after_concat_blank hboth hc⟩

/-- A solid text has no separator. -/
theorem not_separator_of_solid {cs : List Char} (h : solid .outside cs = true) (rest : List Char) :
    ∀ i, front.length ≤ i → i < front.length + cs.length →
      ¬ Separator (front ++ (cs ++ rest)) i := by
  intro i hle hlt
  obtain ⟨before, c, after, rfl, hi⟩ : ∃ before c after, cs = before ++ c :: after ∧
      (front ++ before).length = i := by
    have hlt' : i - front.length < cs.length := by omega
    refine ⟨cs.take (i - front.length), cs[i - front.length], cs.drop (i - front.length + 1),
      ?_, by simp; omega⟩
    rw [List.getElem_cons_drop, List.take_append_drop]
  rw [solid_append, solid] at h
  simp only [Bool.and_eq_true, Bool.not_eq_true'] at h
  have hplace : front ++ (before ++ c :: after ++ rest) =
      (front ++ before) ++ c :: (after ++ rest) := by simp
  rw [← hi, hplace, separator_append_cons, Mode.after_append, hfront, h.2.1]
  exact Bool.false_ne_true

end Behind

/-! ## The division -/

/-- How a text falls into tokens: a blank in front is dropped, and a token is a solid text that
reaches to the end, or to a blank outside quotes. -/
inductive Divided : List Char → List (List Char) → Prop
  | nil : Divided [] []
  | blank {c : Char} {rest : List Char} {texts : List (List Char)} (hblank : isBlank c = true)
      (h : Divided rest texts) : Divided (c :: rest) texts
  | last {token : List Char} (hne : token ≠ []) (hsolid : solid .outside token = true) :
      Divided token [token]
  | cons {token : List Char} {c : Char} {rest : List Char} {texts : List (List Char)}
      (hne : token ≠ []) (hsolid : solid .outside token = true)
      (hend : Mode.outside.after token = .outside) (hblank : isBlank c = true)
      (h : Divided rest texts) : Divided (token ++ c :: rest) (token :: texts)

/-- The token being read is solid, and stands in front of the rest of the text. -/
theorem divided_scan {m : Mode} {current : List Char}
    (hsolid : solid .outside current.reverse = true)
    (hm : Mode.outside.after current.reverse = m) (cs : List Char) :
    Divided (current.reverse ++ cs) (scan m current cs) := by
  induction cs generalizing m current with
  | nil =>
    rw [scan, List.append_nil]
    cases current with
    | nil => exact .nil
    | cons c current => exact .last (by simp) hsolid
  | cons c rest ih =>
    rw [scan]
    cases hsep : m.separates c with
    | true =>
      have hblank := isBlank_of_separates hsep
      have hrest : Divided rest (scan .outside [] rest) := @ih .outside [] rfl rfl
      cases current with
      | nil => exact .blank hblank hrest
      | cons d current =>
        have hend : m = .outside := by simp_all [Mode.separates]
        exact .cons (by simp) hsolid (hm.trans hend) hblank hrest
    | false =>
      have hcons := @ih (m.next c) (c :: current) (by simp [solid_append, solid, hsolid, hm, hsep])
        (by simp [Mode.after_append, hm])
      simpa using hcons

namespace Divided

variable {cs : List Char} {texts : List (List Char)}

theorem tokens_eq (h : Divided cs texts) : tokens cs = texts := by
  induction h with
  | nil => rfl
  | @blank c rest texts hblank _ ih =>
    have hnil : Mode.outside.after [] = .outside := rfl
    exact (tokens_append hnil hblank rest).trans ih
  | last hne hsolid => exact tokens_of_solid hsolid hne
  | @cons token c rest texts hne hsolid hend hblank _ ih =>
    rw [tokens_append hend hblank, tokens_of_solid hsolid hne, ih]
    rfl

theorem aligned (h : Divided cs texts) : Aligned texts := by
  induction h with
  | nil => trivial
  | blank _ _ ih => exact ih
  | last _ hsolid => exact hsolid
  | @cons token c rest texts _ hsolid hend _ _ ih =>
    cases texts with
    | nil => exact hsolid
    | cons => exact ⟨hsolid, hend, ih⟩

theorem closed_of_mem_dropLast (h : Divided cs texts) : ∀ token ∈ texts.dropLast, Closed token := by
  induction h with
  | nil => simp
  | blank _ _ ih => exact ih
  | last => simp
  | @cons token c rest texts _ _ hend _ _ ih =>
    cases texts with
    | nil => simp
    | cons =>
      rw [List.dropLast_cons_of_ne_nil (by simp), List.forall_mem_cons]
      exact ⟨closed_iff.2 hend, ih⟩

theorem flatten_eq_keptFrom (h : Divided cs texts) {front : List Char}
    (hfront : Mode.outside.after front = .outside) :
    texts.flatten = keptFrom (front ++ cs) front.length cs := by
  induction h generalizing front with
  | nil => rfl
  | @blank c rest texts hblank _ ih =>
    rw [ih (after_concat_blank hfront hblank),
      keptFrom_cons_of_separator (separator_of_blank hfront hblank rest)]
    simp
  | @last token _ hsolid =>
    have hnone := not_separator_of_solid hfront hsolid []
    rw [List.append_nil] at hnone
    rw [keptFrom_eq_self hnone, List.flatten_singleton]
  | @cons token c rest texts _ hsolid hend hblank _ ih =>
    have hnone := not_separator_of_solid hfront hsolid (c :: rest)
    obtain ⟨hsep, hfront'⟩ := separator_behind hfront hend hblank rest
    rw [keptFrom_append, keptFrom_eq_self hnone, keptFrom_cons_of_separator hsep, List.flatten_cons,
      ih hfront']
    simp [Nat.add_assoc]

end Divided

/-- A text falls into tokens in one way only, and this is found by the scan. -/
theorem divided_iff {cs : List Char} {texts : List (List Char)} :
    Divided cs texts ↔ tokens cs = texts :=
  ⟨Divided.tokens_eq, fun h => h ▸ @divided_scan _ [] rfl rfl cs⟩

/-! ## Places -/

/-- A part of a text, from one place up to another. -/
structure Span where
  start : Nat
  stop : Nat

namespace Span

instance : Membership Nat Span := ⟨fun s i => s.start ≤ i ∧ i < s.stop⟩

theorem mem_def {s : Span} {i : Nat} : i ∈ s ↔ s.start ≤ i ∧ i < s.stop := Iff.rfl

def text (s : Span) (cs : List Char) : List Char := cs.extract s.start s.stop

end Span

/-- Where the tokens stand in a text from place `n` on: they are cut out by their spans, which
come in order and cover all but the separators. -/
structure Placed (cs : List Char) (n : Nat) (texts : List (List Char)) (spans : List Span) :
    Prop where
  texts_eq : spans.map (·.text cs) = texts
  mem_iff : ∀ i, (∃ s ∈ spans, i ∈ s) ↔ n ≤ i ∧ i < cs.length ∧ ¬ Separator cs i
  between : spans.Pairwise fun s u => ∀ i ∈ s, ∀ j ∈ u, ∃ k, Separator cs k ∧ i < k ∧ k < j
  -- At the end of a token no segment of the text is open, unless it is the last token.
  closed : ∀ s ∈ spans.dropLast, Closed (cs.take s.stop)

namespace Placed

variable {cs : List Char} {n : Nat} {texts : List (List Char)} {spans : List Span}

theorem nil (cs : List Char) : Placed cs cs.length [] [] :=
  ⟨rfl, fun i => by simp; omega, .nil, by simp⟩

theorem skip (h : Placed cs (n + 1) texts spans) (hsep : Separator cs n) :
    Placed cs n texts spans := by
  refine ⟨h.texts_eq, fun i => ?_, h.between, h.closed⟩
  rw [h.mem_iff]
  constructor
  · rintro ⟨hle, hi⟩
    exact ⟨by omega, hi⟩
  · rintro ⟨hle, hlt, hi⟩
    have hne : i ≠ n := by
      rintro rfl
      exact hi hsep
    exact ⟨by omega, hlt, hi⟩

theorem last {s : Span} (hstop : s.stop = cs.length) (hnone : ∀ i ∈ s, ¬ Separator cs i) :
    Placed cs s.start [s.text cs] [s] := by
  refine ⟨rfl, fun i => ?_, List.pairwise_singleton _ _, by simp⟩
  simp only [List.mem_singleton, exists_eq_left]
  constructor
  · intro hi
    exact ⟨hi.1, hstop ▸ hi.2, hnone i hi⟩
  · rintro ⟨hle, hlt, -⟩
    exact ⟨hle, hstop ▸ hlt⟩

theorem cons {s : Span} (h : Placed cs (s.stop + 1) texts spans) (hle : s.start ≤ s.stop)
    (hnone : ∀ i ∈ s, ¬ Separator cs i) (hsep : Separator cs s.stop) :
    Placed cs s.start (s.text cs :: texts) (s :: spans) := by
  have hlt := lt_length_of_separator hsep
  constructor
  · rw [List.map_cons, h.texts_eq]
  · intro i
    simp only [List.mem_cons, exists_eq_or_imp, h.mem_iff]
    constructor
    · rintro (hi | ⟨hstart, hi⟩)
      · have := Span.mem_def.1 hi
        exact ⟨by omega, by omega, hnone i hi⟩
      · exact ⟨by omega, hi⟩
    · rintro ⟨hstart, hi, hnot⟩
      have hne : i ≠ s.stop := by
        rintro rfl
        exact hnot hsep
      by_cases hstop : i < s.stop
      · exact .inl ⟨hstart, hstop⟩
      · exact .inr ⟨by omega, hi, hnot⟩
  · refine List.pairwise_cons.2 ⟨fun u hu i hi j hj => ?_, h.between⟩
    have hj' := ((h.mem_iff j).1 ⟨u, hu, hj⟩).1
    exact ⟨s.stop, hsep, hi.2, by omega⟩
  · intro u hu
    cases spans with
    | nil => simp at hu
    | cons v spans =>
      rw [List.dropLast_cons_of_ne_nil (by simp), List.mem_cons] at hu
      rcases hu with rfl | hu
      · exact hsep.2
      · exact h.closed u hu

/-- Two characters stand in one span exactly if no separator stands between them. -/
theorem together_iff (h : Placed cs 0 texts spans) {i j : Nat} (hi : i < cs.length)
    (hj : j < cs.length) (hi' : ¬ Separator cs i) (hj' : ¬ Separator cs j) :
    (∃ s ∈ spans, i ∈ s ∧ j ∈ s) ↔ ¬ Apart cs i j := by
  constructor
  · rintro ⟨s, hs, his, hjs⟩ ⟨k, hsep, hk⟩
    rw [Span.mem_def] at his hjs
    have hks : k ∈ s := Span.mem_def.2 (by omega)
    exact ((h.mem_iff k).1 ⟨s, hs, hks⟩).2.2 hsep
  · intro hapart
    obtain ⟨s, hs, his⟩ := (h.mem_iff i).2 ⟨i.zero_le, hi, hi'⟩
    obtain ⟨u, hu, hju⟩ := (h.mem_iff j).2 ⟨j.zero_le, hj, hj'⟩
    by_cases hsu : s = u
    · exact ⟨s, hs, his, hsu ▸ hju⟩
    · -- Either of the two spans may come first.
      have hspans : spans.Pairwise fun s u => ∀ i ∈ s, ∀ j ∈ u, Apart cs i j :=
        h.between.imp fun hk i hi j hj =>
          have ⟨k, hsep, hik, hkj⟩ := hk i hi j hj
          ⟨k, hsep, .inl ⟨hik, hkj⟩⟩
      have : Std.Symm fun s u : Span => ∀ i ∈ s, ∀ j ∈ u, Apart cs i j :=
        ⟨fun _ _ hapart i hi j hj => (hapart j hj i hi).symm⟩
      exact absurd (hspans.forall hs hu hsu i his j hju) hapart

end Placed

theorem Divided.exists_spans {cs : List Char} {texts : List (List Char)} (h : Divided cs texts)
    {front : List Char} (hfront : Mode.outside.after front = .outside) :
    ∃ spans, Placed (front ++ cs) front.length texts spans := by
  induction h generalizing front with
  | nil => exact ⟨[], by simpa using Placed.nil front⟩
  | @blank c rest texts hblank _ ih =>
    obtain ⟨spans, hspans⟩ := ih (after_concat_blank hfront hblank)
    rw [List.append_assoc, List.singleton_append, List.length_append] at hspans
    exact ⟨spans, hspans.skip (separator_of_blank hfront hblank rest)⟩
  | @last token _ hsolid =>
    have hnone := not_separator_of_solid hfront hsolid []
    rw [List.append_nil] at hnone
    have hplaced := @Placed.last (front ++ token) ⟨front.length, front.length + token.length⟩
      List.length_append.symm fun i hi => hnone i hi.1 hi.2
    exact ⟨_, by simpa [Span.text] using hplaced⟩
  | @cons token c rest texts _ hsolid hend hblank _ ih =>
    have hnone := not_separator_of_solid hfront hsolid (c :: rest)
    obtain ⟨hsep, hfront'⟩ := separator_behind hfront hend hblank rest
    obtain ⟨spans, hspans⟩ := ih hfront'
    simp only [List.append_assoc, List.singleton_append, List.length_append,
      List.length_singleton, ← Nat.add_assoc] at hspans
    have hplaced := @Placed.cons _ _ _ ⟨front.length, front.length + token.length⟩ hspans
      (Nat.le_add_right _ _) (fun i hi => hnone i hi.1 hi.2) hsep
    exact ⟨_, by simpa [Span.text] using hplaced⟩

/-! ## Nothing is lost -/

/-- What the tokens are to their text. -/
structure Lossless (cs : List Char) (texts : List (List Char)) : Prop where
  ne_nil : ∀ token ∈ texts, token ≠ []
  flatten_eq : texts.flatten = kept cs
  closed : ∀ token ∈ texts.dropLast, Closed token
  -- Two characters that are kept are in one token exactly if no separator stands between them.
  placed : ∃ spans, Placed cs 0 texts spans ∧
    ∀ i j, i < cs.length → j < cs.length → ¬ Separator cs i → ¬ Separator cs j →
      ((∃ s ∈ spans, i ∈ s ∧ j ∈ s) ↔ ¬ Apart cs i j)
  stable : tokens ([' '].intercalate texts) = texts

theorem lossless_tokens (cs : List Char) : Lossless cs (tokens cs) := by
  have hdivided : Divided cs (tokens cs) := divided_iff.2 rfl
  have hstart : Mode.outside.after [] = .outside := rfl
  obtain ⟨spans, hspans⟩ := hdivided.exists_spans hstart
  exact {
    ne_nil := fun _ => ne_nil_of_mem_tokens
    flatten_eq := hdivided.flatten_eq_keptFrom hstart
    closed := hdivided.closed_of_mem_dropLast
    placed := ⟨spans, hspans, fun _ _ => hspans.together_iff⟩
    stable := tokens_intercalate hdivided.aligned fun _ => ne_nil_of_mem_tokens }

/-- An escaped quote does not close its segment, and the last segment is never closed. -/
example :
    tokens " a=\"b \\\" c\"  d \"e \\".toList =
      ["a=\"b \\\" c\"".toList, "d".toList, "\"e \\".toList] := by
  decide +kernel

end ListView.Token
