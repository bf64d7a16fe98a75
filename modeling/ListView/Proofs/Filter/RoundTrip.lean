import Mathlib.Algebra.Order.BigOperators.Group.List
import Mathlib.Algebra.Order.Ring.Nat
import Mathlib.Tactic.ByContra
import Mathlib.Tactic.Choose
import ListView.Filter.Breakdown
import ListView.Proofs.Filter.Reachable

/-!
# Reading a printed filter

A filter whose terms are printable is read back from its print, with the terms
for paging behind the others (`terms_ofString_print`). For a filter that was
read, reading its print gives an equal filter exactly if no term is ambiguous
and the printed terms are aligned (`ofString_print_beq_iff`): its print has too
few blanks to make up by chance for a term that is lost (`no_spare_token`).
-/

namespace ListView

open Text Token

/-- What a term needs in order to be read back from among others. -/
structure Term.Printable (t : Term) : Prop where
  operatorFree : OperatorFree t.keyword.toList
  solid : solid .outside t.keyword.toList = true
  closed : Mode.outside.after t.keyword.toList = .outside
  unambiguous : ¬ t.Ambiguous

instance (cs : List Char) : Decidable (Term.OperatorFree cs) :=
  List.decidableBAll (fun c => Relation.isOperatorChar c = false) cs

instance (t : Term) : Decidable t.Printable :=
  decidable_of_iff
    (Term.OperatorFree t.keyword.toList ∧ Token.solid .outside t.keyword.toList = true ∧
      Mode.outside.after t.keyword.toList = .outside ∧ ¬ t.Ambiguous)
    ⟨fun ⟨ho, hs, hc, hu⟩ => ⟨ho, hs, hc, hu⟩,
      fun h => ⟨h.operatorFree, h.solid, h.closed, h.unambiguous⟩⟩

namespace Filter

/-! ## Reading back -/

theorem chars_ne_nil {t : Term} (h : Term.NormalKeyword t.keyword) : t.chars ≠ [] := by
  simp [Term.chars, h.toList_ne_nil]

theorem aligned_of_printable {ts : List Term} (h : ∀ t ∈ ts, t.Printable) :
    Aligned (ts.map Term.chars) := by
  induction ts with
  | nil => trivial
  | cons t rest ih =>
    obtain ⟨hsolid, hend⟩ := Term.scan_chars (h t List.mem_cons_self).solid
      (h t List.mem_cons_self).closed
    have hrest := ih fun u hu => h u (List.mem_cons_of_mem _ hu)
    cases rest with
    | nil => exact hsolid
    | cons u rest => exact ⟨hsolid, hend, hrest⟩

/-- Aligned terms that are read back one by one are read back together. -/
theorem ofString_print_of_aligned {f : Filter} (hf : f.WellFormed)
    (haligned : Aligned (f.printOrder.map Term.chars))
    (hparse : ∀ t ∈ f.printOrder, Term.parse? t.chars = some t) :
    ofString f.print = ⟨f.printOrder⟩ := by
  have htokens : tokens f.chars = f.printOrder.map Term.chars := by
    refine tokens_intercalate haligned fun cs hcs => ?_
    obtain ⟨t, ht, rfl⟩ := List.mem_map.1 hcs
    exact chars_ne_nil (hf.printOrder.normal_of_mem ht)
  have hterms : (f.printOrder.map Term.chars).filterMap Term.parse? = f.printOrder := by
    rw [List.filterMap_map]
    exact (List.filterMap_congr hparse).trans List.filterMap_some
  rw [ofString_eq, print, String.toList_ofList, htokens, hterms]
  exact @foldl_insert [] _ hf.printOrder

theorem print_printOrder {f : Filter} (hf : f.WellFormed) :
    Filter.print ⟨f.printOrder⟩ = f.print := by
  rw [print, chars, printOrder_printOrder hf]
  rfl

theorem printOrder_beq {f : Filter} (hf : f.WellFormed) :
    ((⟨f.printOrder⟩ : Filter) == f) = true :=
  (beq_iff_perm hf.printOrder).2 (perm_printOrder hf)

/-! ## What a round trip takes -/

/-- The terms' prints, joined as a filter joins them. -/
def joined (ts : List Term) : List Char := [' '].intercalate (ts.map Term.chars)

/-- Each term is read from some token of the joined print. -/
def Recovered (ts : List Term) : Prop :=
  ∀ t ∈ ts, ∃ token ∈ tokens (joined ts), Term.parse? token = some t

theorem joined_cons_cons (t u : Term) (rest : List Term) :
    joined (t :: u :: rest) = t.chars ++ ' ' :: joined (u :: rest) := by
  rw [joined, List.map_cons, List.map_cons, List.intercalate_cons_cons, List.append_assoc]
  rfl

theorem joined_cons (t : Term) (rest : List Term) :
    ∃ tail, joined (t :: rest) = t.chars ++ tail := by
  cases rest with
  | nil => exact ⟨[], by simp [joined]⟩
  | cons u rest => exact ⟨_, joined_cons_cons t u rest⟩

theorem weight_joined {ts : List Term} (hne : ts ≠ []) :
    weight (joined ts) = (ts.map (weight ∘ Term.chars)).sum := by
  rw [joined, weight_intercalate (by simpa using hne), List.map_map]

theorem one_le_weight (cs : List Char) : 1 ≤ weight cs := Nat.le_add_left 1 _

/-- Terms that are recovered take up all tokens, and each token has just the blanks of its term's
print: there are too few blanks for more. -/
theorem no_spare_token {ts : List Term} (hnodup : ts.Nodup) (h : Recovered ts) (hne : ts ≠ []) :
    ∀ token ∈ tokens (joined ts),
      ∃ t ∈ ts, Term.parse? token = some t ∧ weight token = weight t.chars := by
  choose! origin hmem hparse using h
  have hinj : (ts.map origin).Nodup := by
    refine List.Nodup.map_on (fun t ht u hu heq => ?_) hnodup
    have hu' := hparse u hu
    rw [← heq, hparse t ht] at hu'
    exact Option.some.inj hu'
  have hsubset : ts.map origin ⊆ tokens (joined ts) := by
    intro cs hcs
    obtain ⟨t, ht, rfl⟩ := List.mem_map.1 hcs
    exact hmem t ht
  -- the tokens are those of the terms and some that are left over
  obtain ⟨l, hl, hsub⟩ := List.subperm_of_subset hinj hsubset
  obtain ⟨extra, hperm⟩ := hsub.exists_perm_append
  have hall := hperm.trans (hl.append_right extra)
  have hsum := (hall.map weight).sum_eq
  rw [List.map_append, List.sum_append, List.map_map] at hsum
  have htotal := sum_weight_tokens (joined ts)
  rw [hsum, weight_joined hne] at htotal
  have hle : ∀ t ∈ ts, (weight ∘ Term.chars) t ≤ (weight ∘ origin) t :=
    fun t ht => Term.weight_chars_le (hparse t ht)
  have hterms := List.sum_le_sum hle
  -- nothing is left over, as any token has a weight
  have hextra : extra = [] := by
    cases extra with
    | nil => rfl
    | cons cs extra =>
      have hcs := one_le_weight cs
      rw [List.map_cons, List.sum_cons] at htotal
      omega
  intro token htoken
  have hfrom := hall.mem_iff.1 htoken
  rw [hextra, List.append_nil, List.mem_map] at hfrom
  obtain ⟨t, ht, rfl⟩ := hfrom
  refine ⟨t, ht, hparse t ht, Nat.le_antisymm ?_ (hle t ht)⟩
  by_contra hlt
  have hstrict := List.sum_lt_sum _ _ hle ⟨t, ht, Nat.lt_of_not_le hlt⟩
  omega

/-- Where a term is printed, the first token is read with its keyword. -/
theorem parse?_firstToken {t : Term} (hk : Term.NormalKeyword t.keyword)
    (hop : Term.OperatorFree t.keyword.toList) (hsolid : solid .outside t.keyword.toList = true)
    (rest : List Char) :
    firstToken .outside (t.chars ++ rest) ≠ [] ∧
      ∃ u, Term.parse? (firstToken .outside (t.chars ++ rest)) = some u ∧
        u.keyword = t.keyword := by
  have hstart : solid .outside (t.keyword.toList ++ t.relation.chars) = true := by
    rw [solid_append, hsolid,
      solid_of_forall_not_blank fun c hc => Relation.not_blank_of_mem_chars hc]
    rfl
  rw [Term.chars, List.append_assoc, firstToken_append hstart]
  obtain ⟨r, after, -, hparse⟩ := Term.parse?_operator hk hop t.relation
    (firstToken (Mode.outside.after (t.keyword.toList ++ t.relation.chars))
      (Term.valueChars t.value.toList ++ rest))
  exact ⟨by simp [hk.toList_ne_nil], _, hparse, rfl⟩

section Recovered

variable {t : Term} {rest : List Term} (hwf : WellFormed ⟨t :: rest⟩)
  (hop : Term.OperatorFree t.keyword.toList) (hsolid : solid .outside t.keyword.toList = true)
  (h : Recovered (t :: rest))

include hwf hop hsolid h

/-- The token in place of the first term is read as that term and has as many blanks. -/
theorem firstToken_of_recovered {tail : List Char} (heq : joined (t :: rest) = t.chars ++ tail) :
    Term.parse? (firstToken .outside (t.chars ++ tail)) = some t ∧
      weight (firstToken .outside (t.chars ++ tail)) = weight t.chars := by
  have ht := List.mem_cons_self (a := t) (l := rest)
  obtain ⟨hne, u, hu, hkey⟩ := parse?_firstToken (hwf.normal_of_mem ht) hop hsolid tail
  obtain ⟨tokens', htokens⟩ := tokens_eq_cons hne
  have hfirst : firstToken .outside (t.chars ++ tail) ∈ tokens (joined (t :: rest)) := by
    rw [heq, htokens]
    exact List.mem_cons_self
  obtain ⟨s, hs, hparse, hweight⟩ := no_spare_token hwf.nodup h (List.cons_ne_nil t rest) _ hfirst
  have hsu : s = u := Option.some.inj (hparse.symm.trans hu)
  have hst : s = t := hwf.eq_of_keyword_eq hs ht (by rw [hsu, hkey])
  rw [hst] at hparse hweight
  exact ⟨hparse, hweight⟩

theorem solid_of_recovered : solid .outside t.chars = true := by
  by_contra hnot
  obtain ⟨tail, heq⟩ := joined_cons t rest
  have hlt := weight_firstToken_lt (Bool.eq_false_iff.2 hnot) tail
  exact absurd (firstToken_of_recovered hwf hop hsolid h heq).2 (Nat.ne_of_lt hlt)

/-- Quotes that a term leaves open would draw in the blank behind it. -/
theorem closed_of_recovered (hrest : rest ≠ []) : Mode.outside.after t.chars = .outside := by
  obtain ⟨u, rest, rfl⟩ := List.exists_cons_of_ne_nil hrest
  by_contra hnot
  have hlt := weight_lt_firstToken (solid_of_recovered hwf hop hsolid h) hnot (joined (u :: rest))
  have heq := (firstToken_of_recovered hwf hop hsolid h (joined_cons_cons t u rest)).2
  exact absurd heq (Nat.ne_of_gt hlt)

theorem parse?_of_recovered : Term.parse? t.chars = some t := by
  have hclean := solid_of_recovered hwf hop hsolid h
  cases rest with
  | nil =>
    have heq : joined [t] = t.chars ++ [] := by simp [joined]
    have hself := (firstToken_of_recovered hwf hop hsolid h heq).1
    rwa [firstToken_append hclean, firstToken, List.append_nil] at hself
  | cons u rest =>
    have hend := closed_of_recovered hwf hop hsolid h (List.cons_ne_nil u rest)
    have hself := (firstToken_of_recovered hwf hop hsolid h (joined_cons_cons t u rest)).1
    rwa [firstToken_append hclean, hend, firstToken, if_pos (by decide),
      List.append_nil] at hself

theorem recovered_tail : Recovered rest := by
  cases rest with
  | nil => exact fun s hs => absurd hs List.not_mem_nil
  | cons u rest =>
    have hclean := solid_of_recovered hwf hop hsolid h
    have hend := closed_of_recovered hwf hop hsolid h (List.cons_ne_nil u rest)
    have hself := parse?_of_recovered hwf hop hsolid h
    have hne := chars_ne_nil (hwf.normal_of_mem (List.mem_cons_self (a := t)))
    intro s hs
    obtain ⟨token, htoken, hparse⟩ := h s (List.mem_cons_of_mem _ hs)
    rw [joined_cons_cons, tokens_append_blank hclean hend hne] at htoken
    rcases List.mem_cons.1 htoken with rfl | htoken
    · rw [hself] at hparse
      have hnot := (List.nodup_cons.1 hwf.nodup).1
      exact absurd (Option.some.inj hparse ▸ hs) hnot
    · exact ⟨token, htoken, hparse⟩

end Recovered

/-- Terms that are recovered from their joined print stand in it side by side, and none of them
reads as another. -/
theorem aligned_of_recovered {ts : List Term} (hwf : WellFormed ⟨ts⟩)
    (hop : ∀ t ∈ ts, Term.OperatorFree t.keyword.toList)
    (hsolid : ∀ t ∈ ts, solid .outside t.keyword.toList = true) (h : Recovered ts) :
    Aligned (ts.map Term.chars) ∧ ∀ t ∈ ts, ¬ t.Ambiguous := by
  induction ts with
  | nil => exact ⟨trivial, fun t ht => absurd ht List.not_mem_nil⟩
  | cons t rest ih =>
    have ht := hop t List.mem_cons_self
    have hs := hsolid t List.mem_cons_self
    obtain ⟨hrest, hunambiguous⟩ := ih (hwf.of_sublist (List.sublist_cons_self t rest))
      (fun u hu => hop u (List.mem_cons_of_mem _ hu))
      (fun u hu => hsolid u (List.mem_cons_of_mem _ hu)) (recovered_tail hwf ht hs h)
    have hclean := solid_of_recovered hwf ht hs h
    have hself := parse?_of_recovered hwf ht hs h
    have hplain := (Term.parse?_chars_iff (hwf.normal_of_mem List.mem_cons_self) ht).1 hself
    refine ⟨?_, List.forall_mem_cons.2 ⟨hplain, hunambiguous⟩⟩
    cases rest with
    | nil => exact hclean
    | cons u rest =>
      exact ⟨hclean, closed_of_recovered hwf ht hs h (List.cons_ne_nil u rest), hrest⟩

/-! ## The round trip -/

theorem ofString_print_of_printable {f : Filter} (hf : f.WellFormed)
    (hp : ∀ t ∈ f.terms, t.Printable) : ofString f.print = ⟨f.printOrder⟩ := by
  have hp' : ∀ t ∈ f.printOrder, t.Printable := fun t ht => hp t ((mem_printOrder hf).1 ht)
  refine ofString_print_of_aligned hf (aligned_of_printable hp') fun t ht => ?_
  exact (Term.parse?_chars_iff (hf.printOrder.normal_of_mem ht) (hp' t ht).operatorFree).2
    (hp' t ht).unambiguous

/-- Reading the print of a filter that was read gives an equal filter with the same print exactly
if no term is ambiguous and no term's quotes run into the next one. -/
theorem ofString_print_beq_iff (text : String) :
    ((ofString (ofString text).print == ofString text) = true ∧
      (ofString (ofString text).print).print = (ofString text).print) ↔
    (∀ t ∈ (ofString text).terms, ¬ t.Ambiguous) ∧
      Aligned ((ofString text).pagingLast.map Term.chars) := by
  have hwf := WellFormed.ofString text
  have hop : ∀ t ∈ (ofString text).printOrder, Term.OperatorFree t.keyword.toList := by
    intro t ht
    obtain ⟨token, -, hparse⟩ := exists_token_of_mem_ofString ((mem_printOrder hwf).1 ht)
    exact Term.operatorFree_of_parse? hparse
  have hsolid : ∀ t ∈ (ofString text).printOrder, solid .outside t.keyword.toList = true := by
    intro t ht
    obtain ⟨token, htoken, hparse⟩ := exists_token_of_mem_ofString ((mem_printOrder hwf).1 ht)
    exact Term.solid_keyword_of_parse? hparse (solid_of_mem_tokens htoken)
  rw [← printOrder_eq]
  constructor
  · rintro ⟨heq, -⟩
    have hperm := (beq_iff_perm (WellFormed.ofString _)).1 heq
    have hrecovered : Recovered (ofString text).printOrder := by
      intro t ht
      have hread := hperm.mem_iff.2 ((mem_printOrder hwf).1 ht)
      obtain ⟨token, htoken, hparse⟩ := exists_token_of_mem_ofString hread
      rw [print, String.toList_ofList] at htoken
      exact ⟨token, htoken, hparse⟩
    obtain ⟨haligned, hplain⟩ := aligned_of_recovered hwf.printOrder hop hsolid hrecovered
    exact ⟨fun t ht => hplain t ((mem_printOrder hwf).2 ht), haligned⟩
  · rintro ⟨hplain, haligned⟩
    have hread : ofString (ofString text).print = ⟨(ofString text).printOrder⟩ := by
      refine ofString_print_of_aligned hwf haligned fun t ht => ?_
      exact (Term.parse?_chars_iff (hwf.printOrder.normal_of_mem ht) (hop t ht)).2
        (hplain t ((mem_printOrder hwf).1 ht))
    rw [hread]
    exact ⟨printOrder_beq hwf, print_printOrder hwf⟩

theorem ofString_print_bne_bare_equal :
    (ofString "a<\"=b\"").print = "a<=b" ∧
      (ofString (ofString "a<\"=b\"").print == ofString "a<\"=b\"") = false := by
  decide +kernel

end Filter

end ListView
