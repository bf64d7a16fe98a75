import ListView.Proofs.Filter.Grammar
import ListView.Proofs.Filter.Predicates

/-!
# Edits in order

An edit is refused exactly if one of the texts to set spells no term, whatever
else it asks for; then the first such text is named. Otherwise its result is
that of the plain steps: terms are dropped by keyword, then put in one by one,
then the filters to add, then paging moves and reductions (`value_run`). That
terms which are there already are not put in again cannot be seen: putting them
in changes nothing (`setTerm_of_some`).
-/

namespace ListView.Edit

open Text

variable {f : Filter} {text : String}

/-! ## Texts that spell no term -/

/-- Whether the text is blank, or begins with an operator. -/
def refuses (text : String) : Bool :=
  allBlank text || (trim text.toList).head?.any Relation.isOperatorChar

theorem ofText?_eq_none_iff : Term.ofText? text = none ↔ refuses text = true := by
  rw [Term.ofText?, Term.parse?_eq_none_iff, refuses, head?_trim, Bool.or_eq_true,
    allBlank, List.all_eq_true, Option.any_eq_true]
  simp [Relation.isOperatorChar, or_assoc]

theorem setTerm_of_none (h : Term.ofText? text = none) (f : Filter) :
    setTerm f text = .error (.invalidTerm text) := by
  rw [setTerm, h]

/-- A term that is there already may as well be put in. -/
theorem setTerm_of_some (hf : f.WellFormed) {t : Term} (h : Term.ofText? text = some t) :
    setTerm f text = .ok (f.insert t) := by
  have hput : f.setWith t.keyword t.relation t.value = f.insert t :=
    Filter.setWith_of_normal (Term.normal_of_parse? h) f t.relation t.value
  rw [setTerm, h]
  by_cases hmem : t ∈ f.terms
  · simp [Filter.hasTerm, hmem, hf.insert_of_mem hmem]
  · simp [Filter.hasTerm, hmem, hput]

/-- The terms are put in one by one, up to the first text that spells none. -/
theorem foldlM_setTerm (hf : f.WellFormed) (texts : List String) :
    texts.foldlM setTerm f =
      (texts.find? refuses).elim (.ok ((texts.filterMap Term.ofText?).foldl Filter.insert f))
        fun text => .error (.invalidTerm text) := by
  induction texts generalizing f with
  | nil => rfl
  | cons text rest ih =>
    rw [List.foldlM_cons]
    cases h : Term.ofText? text with
    | none =>
      rw [setTerm_of_none h, List.find?_cons_of_pos (ofText?_eq_none_iff.1 h)]
      rfl
    | some t =>
      have hpasses : ¬ refuses text = true := fun hrefuses => by
        rw [ofText?_eq_none_iff.2 hrefuses] at h
        cases h
      rw [setTerm_of_some hf h, List.find?_cons_of_neg hpasses, List.filterMap_cons_some h]
      exact ih (hf.insert (Term.normal_of_parse? h))

/-! ## The other steps -/

theorem value_foldlM_addFilter (texts : List String) (f : Filter) :
    (texts.foldlM addFilter f).value = (texts.map Filter.ofString).foldl Filter.and f := by
  induction texts generalizing f with
  | nil => rfl
  | cons text rest ih =>
    rw [List.foldlM_cons, Logged.value_bind, ih]
    rfl

theorem value_applyIf (flag : Bool) (change : Filter → Logged Filter) (f : Filter) :
    (applyIf flag change f).value = if flag then (change f).value else f := by
  cases flag <;> rfl

/-! ## The plain steps -/

/-- The filter to edit, without the terms that are deleted. -/
def kept (e : Edit) : Filter :=
  ⟨(Filter.ofString e.filter).terms.filter fun t =>
    t.keyword ∉ e.delete.map Term.normalizeKeyword⟩

/-- The edit step by step, where each text to set spells a term and each term is put in. -/
def plain (e : Edit) : Filter :=
  let set := (e.set.filterMap Term.ofText?).foldl Filter.insert e.kept
  let joined := (e.and.map Filter.ofString).foldl Filter.and set
  let next := if e.nextPage then joined.nextPage.value else joined
  let back := if e.previousPage then next.previousPage.value else next
  let reduced := if e.simple then back.simple else back
  if e.all then reduced.all else reduced

theorem wellFormed_kept (e : Edit) : e.kept.WellFormed :=
  (Filter.WellFormed.ofString e.filter).of_sublist List.filter_sublist

/-- The edited filter is that of the plain steps, unless a text to set spells no term. -/
theorem value_run (e : Edit) :
    e.run.value = (e.set.find? refuses).elim (.ok e.plain) fun text =>
      .error (.invalidTerm text) := by
  have hkept : e.delete.foldl Filter.delete (Filter.read e.filter).value = e.kept :=
    Filter.foldl_delete e.delete (Filter.ofString e.filter)
  rw [run, Logged.value_bind, hkept, foldlM_setTerm e.wellFormed_kept]
  cases e.set.find? refuses with
  | some text => rfl
  | none =>
    simp only [Option.elim_none, Logged.value_map, finish, Logged.value_bind, Logged.value_pure,
      value_foldlM_addFilter, value_applyIf]
    rfl

/-- An edit is refused exactly if a text to set is blank or begins with an operator, and then it
names the first such text; otherwise the plain steps make its result. The keywords to delete count
as a set. -/
theorem value_run_eq_plain (e : Edit) :
    (∀ error, e.run.value = .error error ↔
      ∃ text, e.set.find? refuses = some text ∧ error = .invalidTerm text ∧
        error.message = "invalid term to set: " ++ quoted text) ∧
    ((∀ text ∈ e.set, refuses text = false) → e.run.value = .ok e.plain) ∧
    ∀ delete, (∀ k, k ∈ delete ↔ k ∈ e.delete) →
      ({ e with delete } : Edit).run.value = e.run.value := by
  refine ⟨fun error => ?_, fun hpass => ?_, fun delete hsame => ?_⟩
  · rw [value_run]
    cases e.set.find? refuses with
    | none => simp
    | some text =>
      simp only [Option.elim_some, Except.error.injEq, Option.some.injEq]
      constructor
      · rintro rfl
        exact ⟨text, rfl, rfl, rfl⟩
      · rintro ⟨_, rfl, rfl, -⟩
        rfl
  · have hnone : e.set.find? refuses = none :=
      List.find?_eq_none.2 fun text htext => Bool.eq_false_iff.1 (hpass text htext)
    rw [value_run, hnone, Option.elim_none]
  · have hkept : ({ e with delete } : Edit).kept = e.kept := by
      rw [kept, kept]
      refine congrArg Filter.mk (List.filter_congr fun t _ => decide_eq_decide.2 (not_congr ?_))
      simp only [List.mem_map, hsame]
    rw [value_run, value_run, plain, plain, hkept]

/-- A term that is there already, a sort turned around, keywords deleted twice in other spellings
and a text added; and two texts that spell no term. -/
theorem value_run_eq_plain_reversed :
    let e : Edit :=
      { filter := "SORT=id rows=5 tag~x name=\"a b\" first=3"
        set := [" Rows = 5", "size>=7", "sort-reverse=date", "rows=5"]
        delete := ["tag", " TAG", "none", "tag"]
        and := ["size<9 os=\"=\"", "name"]
        nextPage := true
        previousPage := false
        simple := false
        all := false }
    let refused : Edit := { e with set := ["os", "\t<=7", " "] }
    (∀ text ∈ e.set, refuses text = false) ∧
      (∃ f, e.run.value = .ok f ∧
        f.terms = [⟨"rows", .equal, "5"⟩, ⟨"name", .equal, ""⟩, ⟨"first", .equal, "8"⟩,
          ⟨"size", .less, "9"⟩, ⟨"sort-reverse", .equal, "date"⟩, ⟨"os", .equal, "="⟩]) ∧
      (∀ k, k ∈ ["none", "tag", " TAG"] ↔ k ∈ e.delete) ∧
      ({ e with delete := ["none", "tag", " TAG"] } : Edit).run.value = e.run.value ∧
      refused.run.value = .error (.invalidTerm "\t<=7") := by
  intro e refused
  obtain ⟨-, hplain, hdelete⟩ := value_run_eq_plain e
  have hpass : ∀ text ∈ e.set, refuses text = false := by decide +kernel
  have hsame : ∀ k, k ∈ ["none", "tag", " TAG"] ↔ k ∈ e.delete := by
    intro k
    simp only [e, List.mem_cons, List.not_mem_nil, or_false]
    tauto
  refine ⟨hpass, ⟨e.plain, hplain hpass, by decide +kernel⟩, hsame, hdelete _ hsame, ?_⟩
  exact ((value_run_eq_plain refused).1 _).2 ⟨"\t<=7", by decide +kernel, rfl, rfl⟩

end ListView.Edit
