import ListView.Proofs.Filter.Term

/-!
# The grammar of tokens

A token is a keyword without operators, with nothing behind it or with a
relation and the text of a value. The keyword is not blank, and no `=` stands
directly behind `<` or `>`, which together are another relation. `Parts` are the
parts of such a token, and `Parts.Spells` is the term they stand for, said
without the reader.

The reader takes the tokens that have parts and no others (`parse?_grammar`).
Those are the tokens that do not begin with an operator, leading blanks aside.
The parts are determined by the token, and so is the term by its parts.
-/

namespace ListView.Term

open Text

/-! ## Parts and their term -/

/-- The parts of a token as they are written, with the blanks around them. -/
@[ext] structure Parts where
  keyword : List Char
  condition : Option (Relation × List Char)
  operatorFree : OperatorFree keyword
  not_blank : ∃ c ∈ keyword, isBlank c = false
  -- `<` and an `=` behind it are one operator
  separate : ∀ r value, condition = some (r, value) → (r = .less ∨ r = .greater) →
    value.head? ≠ some '='

namespace Parts

def chars (p : Parts) : List Char :=
  p.keyword ++ match p.condition with
    | none => []
    | some (r, value) => r.chars ++ value

/-- The term that the parts stand for. A keyword alone is a flag. -/
def Spells (p : Parts) (t : Term) : Prop :=
  t.keyword.toList = lower (trim p.keyword) ∧
    match p.condition with
    | none => t.relation = .equal ∧ t.value = ""
    | some (r, value) => t.relation = r ∧ Quotation.Spells (trim value) t.value.toList

variable (p : Parts)

theorem splitOperator_chars : splitOperator p.chars = p.condition.map (p.keyword, ·) := by
  rw [chars]
  cases hcondition : p.condition with
  | none =>
    rw [List.append_nil]
    exact splitOperator_eq_none_iff.2 p.operatorFree
  | some found =>
    obtain ⟨r, value⟩ := found
    exact splitOperator_eq_some_iff.2
      ⟨(List.append_assoc _ _ _).symm, p.operatorFree, p.separate r value hcondition⟩

/-- A token has no other parts. -/
theorem chars_injective {p q : Parts} (h : p.chars = q.chars) : p = q := by
  have hcondition : p.condition = q.condition := by
    have hsplit := p.splitOperator_chars
    rw [h, q.splitOperator_chars] at hsplit
    simpa [Function.comp_def] using congrArg (Option.map Prod.snd) hsplit.symm
  rw [chars, chars, hcondition] at h
  exact Parts.ext (List.append_cancel_right h) hcondition

/-- The term is made of what the parts spell. -/
theorem exists_make? : ∃ r v, parse? p.chars = make? p.keyword r v ∧
    ∀ t : Term, p.Spells t ↔
      t.keyword.toList = lower (trim p.keyword) ∧ t.relation = r ∧ t.value.toList = v := by
  rw [parse?_eq, splitOperator_chars]
  simp only [Spells]
  cases hcondition : p.condition with
  | none =>
    have hchars : p.chars = p.keyword := by simp [chars, hcondition]
    refine ⟨.equal, [], by rw [hchars]; rfl, fun t => ?_⟩
    rw [String.toList_eq_nil_iff]
  | some found =>
    obtain ⟨r, value⟩ := found
    refine ⟨r, Quotation.decode (trim value), rfl, fun t => ?_⟩
    rw [eq_comm (b := Quotation.decode (trim value)), Quotation.decode_eq_iff]

theorem exists_parse?_chars : ∃ t, parse? p.chars = some t ∧ ∀ u, p.Spells u ↔ u = t := by
  obtain ⟨r, v, hparse, hspells⟩ := p.exists_make?
  obtain ⟨t, ht⟩ := Option.isSome_iff_exists.1 (isSome_make?_iff.2 p.not_blank)
  obtain ⟨-, rfl⟩ := make?_eq_some_iff.1 ht
  refine ⟨_, hparse.trans ht, fun u => ?_⟩
  rw [hspells]
  constructor
  · rintro ⟨hk, rfl, rfl⟩
    obtain ⟨k, r, v⟩ := u
    rw [normalKeyword, ← hk, String.ofList_toList, String.ofList_toList]
  · rintro rfl
    simp only [String.toList_ofList, normalKeyword, and_self]

end Parts

/-! ## The tokens that are read -/

/-- Blank tokens are refused, and those that begin with an operator. -/
theorem parse?_eq_none_iff {token : List Char} :
    parse? token = none ↔
      (∀ c ∈ token, isBlank c = true) ∨
        ∃ c, token.find? (!isBlank ·) = some c ∧ c ∈ ['=', '~', '<', '>'] := by
  rw [parse?_eq]
  cases hsplit : splitOperator token with
  | none =>
    have hfree := operatorFree_iff.1 (splitOperator_eq_none_iff.1 hsplit)
    rw [make?_eq_none_iff]
    refine ⟨.inl, fun h => h.elim id ?_⟩
    rintro ⟨c, hfind, hop⟩
    exact absurd hop (hfree c (List.mem_of_find?_eq_some hfind))
  | some found =>
    obtain ⟨k, r, v⟩ := found
    obtain ⟨rfl, hk, -⟩ := splitOperator_eq_some_iff.1 hsplit
    simp only [make?_eq_none_iff, List.append_assoc]
    cases hfind : k.find? (!isBlank ·) with
    | none =>
      obtain ⟨c, rest, hchars, hop⟩ := r.exists_chars_eq_cons
      have hc : isBlank c = false := Relation.not_blank_of_mem_chars (r := r) (by simp [hchars])
      refine iff_of_true (by simpa using hfind) (.inr ⟨c, ?_, hop⟩)
      rw [List.find?_append, hfind, hchars]
      simp [hc]
    | some d =>
      -- The keyword is not blank, so the token begins as the keyword does.
      have hd : d ∈ k := List.mem_of_find?_eq_some hfind
      have hdblank : isBlank d = false := by simpa using List.find?_some hfind
      refine iff_of_false (fun h => by simp [h d hd] at hdblank) ?_
      rintro (h | ⟨c, hc, hop⟩)
      · simp [h d (List.mem_append_left _ hd)] at hdblank
      · rw [List.find?_append, hfind] at hc
        cases hc
        exact operatorFree_iff.1 hk d hd hop

theorem exists_parts {token : List Char} (h : (parse? token).isSome) :
    ∃ p : Parts, p.chars = token := by
  rw [parse?_eq] at h
  cases hsplit : splitOperator token with
  | none =>
    rw [hsplit] at h
    exact ⟨⟨token, none, splitOperator_eq_none_iff.1 hsplit, isSome_make?_iff.1 h, by simp⟩,
      List.append_nil _⟩
  | some found =>
    obtain ⟨k, r, v⟩ := found
    rw [hsplit] at h
    obtain ⟨heq, hk, hv⟩ := splitOperator_eq_some_iff.1 hsplit
    refine ⟨⟨k, some (r, v), hk, isSome_make?_iff.1 h, ?_⟩, ?_⟩
    · rintro _ _ ⟨⟩
      exact hv
    · rw [heq, List.append_assoc]
      rfl

/-- A token is refused if it is blank or begins with an operator. Of parts, the token gives the
term that they spell; and a token that is read has parts, and no others. -/
theorem parse?_grammar (token : List Char) :
    (parse? token = none ↔
      (∀ c ∈ token, isBlank c = true) ∨
        ∃ c, token.find? (!isBlank ·) = some c ∧ c ∈ ['=', '~', '<', '>']) ∧
    (∀ p : Parts, p.chars = token → ∃ t, parse? token = some t ∧ ∀ u, p.Spells u ↔ u = t) ∧
    ((parse? token).isSome → ∃! p : Parts, p.chars = token) := by
  refine ⟨parse?_eq_none_iff, ?_, fun h => ?_⟩
  · rintro p rfl
    exact p.exists_parse?_chars
  · obtain ⟨p, hp⟩ := exists_parts h
    exact ⟨p, hp, fun q hq => Parts.chars_injective (hq.trans hp.symm)⟩

/-- A quoted value with an escaped quote and an escaped backslash at its end, behind `<=`; and a
token that begins with the operator. -/
theorem parse?_grammar_quoted :
    parse? " SIZE <= \"A\\\"B\\\\\" ".toList = some ⟨"size", .lessOrEqual, "A\"B\\"⟩ ∧
      (∃! p : Parts, p.chars = " SIZE <= \"A\\\"B\\\\\" ".toList) ∧
      parse? " <=7".toList = none := by
  obtain ⟨-, hread, hparts⟩ := parse?_grammar " SIZE <= \"A\\\"B\\\\\" ".toList
  let p : Parts :=
    { keyword := " SIZE ".toList
      condition := some (.lessOrEqual, " \"A\\\"B\\\\\" ".toList)
      operatorFree := by simp [OperatorFree, Relation.isOperatorChar]
      not_blank := ⟨'S', by simp, by decide⟩
      separate := by rintro _ _ ⟨⟩ h; simp at h }
  have hvalue : trim " \"A\\\"B\\\\\" ".toList = '"' :: "A\\\"B\\\\".toList ++ ['"'] := by
    decide +kernel
  have hspells : p.Spells ⟨"size", .lessOrEqual, "A\"B\\"⟩ := by
    refine ⟨by decide +kernel, rfl, ?_⟩
    rw [hvalue]
    exact .quoted (by decide) (.plain (by decide) (.escaped '"' (.plain (by decide)
      (.escaped '\\' .nil))))
  obtain ⟨t, ht, hterm⟩ := hread p rfl
  rw [(hterm _).1 hspells]
  refine ⟨ht, hparts (by rw [ht]; rfl), ?_⟩
  exact (parse?_grammar " <=7".toList).1.2 (.inr ⟨'<', by decide, by decide⟩)

end ListView.Term
