import ListView.Filter.Term
import ListView.Proofs.Filter.Quotation

/-!
# Reading and printing terms

A keyword is kept in its normal form: trimmed, in lower case, not empty. A token
is split at its first operator, and blanks around its parts do not count
(`parse?_eq`). A term whose keyword holds no operator is read back from its
print, unless it is ambiguous: `<` or `>` in front of a bare value that begins
with `=` (`parse?_chars_iff`). What is read from a token has such a keyword, so
no other term is read back (`ofText?_print_iff`), and its print has no more
blanks than the token.
-/

namespace ListView

open Text Token

namespace Relation

theorem head?_of_not_operator {c : Char} (h : isOperatorChar c = false) (rest : List Char) :
    head? (c :: rest) = none := by
  simp only [isOperatorChar, Bool.or_eq_false_iff, decide_eq_false_iff_not] at h
  obtain ⟨⟨⟨he, ha⟩, hl⟩, hg⟩ := h
  unfold head?
  split <;> simp_all

theorem not_operator_of_head? {c : Char} {rest : List Char} (h : head? (c :: rest) = none) :
    isOperatorChar c = false := by
  refine Bool.eq_false_iff.2 fun hop => ?_
  simp only [isOperatorChar, Bool.or_eq_true, decide_eq_true_eq] at hop
  unfold head? at h
  split at h <;> simp_all

theorem not_operator_of_not_mark {c : Char} (h : isMark c = false) : isOperatorChar c = false := by
  have hne : ∀ d ∈ marks, c ≠ d := fun d hd =>
    ne_of_not_mark h (by simp only [isMark, List.contains_iff_mem.2 hd, Bool.or_true])
  simp [isOperatorChar, hne '=' (by decide), hne '~' (by decide), hne '<' (by decide),
    hne '>' (by decide)]

theorem isMark_of_operator {c : Char} (h : isOperatorChar c = true) : isMark c = true := by
  cases hm : isMark c with
  | true => rfl
  | false => rw [not_operator_of_not_mark hm] at h; cases h

theorem head?_less {c : Char} (hc : c ≠ '=') (rest : List Char) :
    head? ('<' :: c :: rest) = some (less, c :: rest) := by
  unfold head?
  split <;> simp_all

theorem head?_greater {c : Char} (hc : c ≠ '=') (rest : List Char) :
    head? ('>' :: c :: rest) = some (greater, c :: rest) := by
  unfold head?
  split <;> simp_all

/-- An operator is found where one is printed: the same, unless it grows by what follows. -/
theorem head?_chars_append (r : Relation) (rest : List Char) :
    (∃ r' after, head? (r.chars ++ rest) = some (r', after)) ∧
      (head? (r.chars ++ rest) = some (r, rest) ↔
        ¬ ((r = less ∨ r = greater) ∧ rest.head? = some '=')) := by
  cases r with
  | equal | approx | lessOrEqual | greaterOrEqual => simp [chars, head?]
  | less =>
    rcases rest with - | ⟨c, rest⟩
    · simp [chars, head?]
    · by_cases hc : c = '='
      · simp [chars, hc, head?]
      · simp [chars, hc, head?_less hc]
  | greater =>
    rcases rest with - | ⟨c, rest⟩
    · simp [chars, head?]
    · by_cases hc : c = '='
      · simp [chars, hc, head?]
      · simp [chars, hc, head?_greater hc]

theorem not_blank_of_mem_chars {r : Relation} {c : Char} (h : c ∈ r.chars) :
    isBlank c = false := by
  cases r <;> simp only [chars, List.mem_cons, List.not_mem_nil, or_false] at h <;>
    rcases h with rfl | rfl <;> decide

theorem chars_ne_nil (r : Relation) : r.chars ≠ [] := by cases r <;> simp [chars]

theorem exists_chars_eq_cons (r : Relation) :
    ∃ c rest, r.chars = c :: rest ∧ c ∈ ['=', '~', '<', '>'] := by
  cases r <;> exact ⟨_, _, rfl, by decide⟩

theorem after_chars (r : Relation) : Mode.outside.after r.chars = .outside := by
  cases r <;> rfl

end Relation

namespace Term

/-! ## Keywords -/

/-- A keyword as it is kept: not empty, trimmed and in lower case. -/
def NormalKeyword (k : String) : Prop := k ≠ "" ∧ normalizeKeyword k = k

theorem trimmed_normalKeyword (cs : List Char) : Trimmed (normalKeyword cs) :=
  (respelled_lower _).trimmed (trimmed_trim cs)

theorem normalKeyword_idem (cs : List Char) :
    normalKeyword (normalKeyword cs) = normalKeyword cs := by
  rw [normalKeyword, (trimmed_normalKeyword cs).trim_eq, normalKeyword, lower_lower]

theorem normalizeKeyword_idem (k : String) :
    normalizeKeyword (normalizeKeyword k) = normalizeKeyword k := by
  simp [normalizeKeyword, normalKeyword_idem]

theorem normalKeyword_eq_nil_iff {cs : List Char} :
    normalKeyword cs = [] ↔ ∀ c ∈ cs, isBlank c = true := by
  rw [normalKeyword, (respelled_lower _).eq_nil_iff, trim_eq_nil_iff]

theorem normalizeKeyword_eq_empty_iff {k : String} :
    normalizeKeyword k = "" ↔ allBlank k = true := by
  rw [normalizeKeyword, String.ofList_eq_empty_iff, normalKeyword_eq_nil_iff, allBlank,
    List.all_eq_true]

namespace NormalKeyword

variable {k : String}

theorem toList_eq (h : NormalKeyword k) : normalKeyword k.toList = k.toList := by
  have heq := congrArg String.toList h.2
  rwa [normalizeKeyword, String.toList_ofList] at heq

theorem toList_ne_nil (h : NormalKeyword k) : k.toList ≠ [] := by
  simpa using h.1

end NormalKeyword

theorem make?_eq_some_iff {k v : List Char} {r : Relation} {t : Term} :
    make? k r v = some t ↔
      normalKeyword k ≠ [] ∧ ⟨String.ofList (normalKeyword k), r, String.ofList v⟩ = t := by
  simp [make?]

theorem make?_eq_none_iff {k v : List Char} {r : Relation} :
    make? k r v = none ↔ ∀ c ∈ k, isBlank c = true := by
  rw [← normalKeyword_eq_nil_iff]
  simp [make?]

theorem isSome_make?_iff {k v : List Char} {r : Relation} :
    (make? k r v).isSome ↔ ∃ c ∈ k, isBlank c = false := by
  simp [Option.isSome_iff_ne_none, make?_eq_none_iff]

theorem normal_of_make? {k v : List Char} {r : Relation} {t : Term} (h : make? k r v = some t) :
    NormalKeyword t.keyword := by
  obtain ⟨hne, rfl⟩ := make?_eq_some_iff.1 h
  refine ⟨fun he => hne ?_, ?_⟩
  · simpa using congrArg String.toList he
  · simp [normalizeKeyword, normalKeyword_idem]

theorem make?_of_normal {k : String} (h : NormalKeyword k) (r : Relation) (v : List Char) :
    make? k.toList r v = some ⟨k, r, String.ofList v⟩ := by
  rw [make?_eq_some_iff, h.toList_eq, String.ofList_toList]
  exact ⟨h.toList_ne_nil, rfl⟩

/-! ## Operators -/

def OperatorFree (cs : List Char) : Prop := ∀ c ∈ cs, Relation.isOperatorChar c = false

theorem OperatorFree.respelled {cs ds : List Char} (h : OperatorFree cs) (hr : Respelled cs ds) :
    OperatorFree ds := by
  intro d hd
  refine Bool.eq_false_iff.2 fun hop => ?_
  have hfree := h d (hr.mem_of_isMark hd (Relation.isMark_of_operator hop))
  rw [hop] at hfree
  cases hfree

theorem OperatorFree.normalKeyword {cs : List Char} (h : OperatorFree cs) :
    OperatorFree (normalKeyword cs) := by
  refine OperatorFree.respelled (fun c hc => h c ?_) (respelled_lower (trim cs))
  exact (trim_sublist cs).subset hc

theorem splitOperator_append {k rest after : List Char} {r : Relation} (hk : OperatorFree k)
    (h : Relation.head? rest = some (r, after)) :
    splitOperator (k ++ rest) = some (k, r, after) := by
  induction k with
  | nil =>
    cases rest with
    | nil => cases h
    | cons c rest => rw [List.nil_append, splitOperator, h]
  | cons c k ih =>
    rw [List.cons_append, splitOperator, Relation.head?_of_not_operator (hk c List.mem_cons_self),
      ih fun d hd => hk d (List.mem_cons_of_mem _ hd)]
    rfl

theorem operatorFree_of_splitOperator {cs k after : List Char} {r : Relation}
    (h : splitOperator cs = some (k, r, after)) : OperatorFree k := by
  induction cs generalizing k with
  | nil => cases h
  | cons c rest ih =>
    rw [splitOperator] at h
    split at h
    · cases h
      exact fun c hc => absurd hc List.not_mem_nil
    · rename_i hhead
      obtain ⟨⟨b, found⟩, hs, heq⟩ := Option.map_eq_some_iff.1 h
      cases heq
      exact List.forall_mem_cons.2 ⟨Relation.not_operator_of_head? hhead, ih hs⟩

theorem splitOperator_eq_none_iff {cs : List Char} : splitOperator cs = none ↔ OperatorFree cs := by
  induction cs with
  | nil => exact ⟨fun _ c hc => absurd hc List.not_mem_nil, fun _ => rfl⟩
  | cons c rest ih =>
    rw [splitOperator, OperatorFree, List.forall_mem_cons, ← OperatorFree, ← ih]
    cases hhead : Relation.head? (c :: rest) with
    | none => simp [Relation.not_operator_of_head? hhead]
    | some found =>
      have hop : Relation.isOperatorChar c ≠ false := fun hfree => by
        rw [Relation.head?_of_not_operator hfree] at hhead
        cases hhead
      simp [hop]

/-- The text is split at its first operator, and the longer of two operators is found. -/
theorem splitOperator_eq_some_iff {cs k v : List Char} {r : Relation} :
    splitOperator cs = some (k, r, v) ↔
      cs = k ++ r.chars ++ v ∧ OperatorFree k ∧
        ((r = .less ∨ r = .greater) → v.head? ≠ some '=') := by
  constructor
  · intro h
    have heq := eq_append_of_splitOperator h
    have hk := operatorFree_of_splitOperator h
    obtain ⟨⟨r', after, hhead⟩, hsame⟩ := Relation.head?_chars_append r v
    have hsplit := splitOperator_append hk hhead
    rw [← heq, h] at hsplit
    cases hsplit
    exact ⟨by rw [heq, List.append_assoc], hk, fun hr he => hsame.1 hhead ⟨hr, he⟩⟩
  · rintro ⟨rfl, hk, hv⟩
    rw [List.append_assoc]
    exact splitOperator_append hk
      ((Relation.head?_chars_append r v).2.2 fun hambiguous => hv hambiguous.1 hambiguous.2)

/-! ## Values -/

theorem forall_of_not_needsQuotes {v : List Char} (h : needsQuotes v = false) :
    ∀ c ∈ v, isBlank c = false ∧ c ≠ '"' := by
  intro c hc
  simpa using List.any_eq_false.1 h c hc

theorem decode_valueChars (v : List Char) : Quotation.decode (valueChars v) = v := by
  unfold valueChars
  split
  · exact Quotation.decode_encode v
  · rename_i hq
    refine Quotation.decode_of_not_mem fun hmem => ?_
    exact (forall_of_not_needsQuotes (Bool.eq_false_iff.2 hq) _ hmem).2 rfl

theorem trimmed_valueChars (v : List Char) : Trimmed (valueChars v) := by
  unfold valueChars
  split
  · exact Quotation.trimmed_encode v
  · rename_i hq
    exact trimmed_of_forall_not_blank fun c hc =>
      (forall_of_not_needsQuotes (Bool.eq_false_iff.2 hq) c hc).1

theorem after_of_forall_ne_quote {cs : List Char} (h : ∀ c ∈ cs, c ≠ '"') :
    Mode.outside.after cs = .outside := by
  induction cs with
  | nil => rfl
  | cons c rest ih =>
    rw [Mode.after_cons, Mode.next, if_neg (h c List.mem_cons_self),
      ih fun d hd => h d (List.mem_cons_of_mem _ hd)]

theorem scan_valueChars (v : List Char) :
    solid .outside (valueChars v) = true ∧ Mode.outside.after (valueChars v) = .outside := by
  unfold valueChars
  split
  · exact ⟨Quotation.solid_encode v, Quotation.after_encode v⟩
  · rename_i hq
    have hv := forall_of_not_needsQuotes (Bool.eq_false_iff.2 hq)
    exact ⟨solid_of_forall_not_blank (fun c hc => (hv c hc).1) _,
      after_of_forall_ne_quote fun c hc => (hv c hc).2⟩

theorem countP_valueChars (v : List Char) :
    (valueChars v).countP isBlank = v.countP isBlank := by
  unfold valueChars
  split
  · exact Quotation.countP_encode v
  · rfl

theorem head?_valueChars (v : List Char) :
    (valueChars v).head? = some '=' ↔ v.head? = some '=' ∧ needsQuotes v = false := by
  unfold valueChars
  split
  · rename_i hq
    simp [hq, Quotation.encode]
  · rename_i hq
    simp [Bool.eq_false_iff.2 hq]

/-! ## Reading around blanks -/

theorem make?_eq_of_trim_eq {cs ds : List Char} (h : trim cs = trim ds) (r : Relation)
    (v : List Char) : make? cs r v = make? ds r v := by
  rw [make?, make?, normalKeyword, normalKeyword, h]

/-- The blanks around a token change nothing: its parts are trimmed on their own. -/
theorem parse?_eq (token : List Char) :
    parse? token = match splitOperator token with
      | some (keyword, r, value) => make? keyword r (Quotation.decode (trim value))
      | none => make? token .equal [] := by
  cases hsplit : splitOperator token with
  | none =>
    have htrim : splitOperator (trim token) = none :=
      splitOperator_eq_none_iff.2 fun c hc =>
        splitOperator_eq_none_iff.1 hsplit c ((trim_sublist token).subset hc)
    simp only [parse?, htrim]
    exact make?_eq_of_trim_eq (trimmed_trim token).trim_eq _ _
  | some found =>
    obtain ⟨k, r, v⟩ := found
    obtain ⟨rfl, hk, hv⟩ := splitOperator_eq_some_iff.1 hsplit
    have hr : Trimmed r.chars :=
      trimmed_of_forall_not_blank fun c hc => Relation.not_blank_of_mem_chars hc
    have htrim : splitOperator (trim (k ++ r.chars ++ v)) = some (trimStart k, r, trimEnd v) := by
      refine splitOperator_eq_some_iff.2 ⟨hr.trim_between r.chars_ne_nil k v, ?_, ?_⟩
      · exact fun c hc => hk c ((List.dropWhile_sublist isBlank).subset hc)
      · intro hless he
        obtain ⟨after, happ⟩ := trimEnd_prefix_self v
        refine hv hless ?_
        rw [← happ, List.head?_append, he]
        rfl
    simp only [parse?, htrim, trim_trimEnd]
    exact make?_eq_of_trim_eq (trim_trimStart k) _ _

/-! ## Reading what is printed -/

/-- Printed, the relation and the value would read as another relation. -/
def Ambiguous (t : Term) : Prop :=
  (t.relation = .less ∨ t.relation = .greater) ∧
    t.value.toList.head? = some '=' ∧ needsQuotes t.value.toList = false

instance (t : Term) : Decidable t.Ambiguous :=
  inferInstanceAs (Decidable ((_ ∨ _) ∧ _ ∧ _))

/-- A keyword in front of an operator is read as the keyword, whatever follows. -/
theorem parse?_operator {k : String} (hk : NormalKeyword k) (hop : OperatorFree k.toList)
    (r : Relation) (rest : List Char) :
    ∃ r' after, Relation.head? (r.chars ++ rest) = some (r', after) ∧
      parse? (k.toList ++ r.chars ++ rest) =
        some ⟨k, r', String.ofList (Quotation.decode (trim after))⟩ := by
  obtain ⟨r', after, hhead⟩ := (Relation.head?_chars_append r rest).1
  refine ⟨r', after, hhead, ?_⟩
  rw [parse?_eq, List.append_assoc, splitOperator_append hop hhead]
  exact make?_of_normal hk _ _

/-- A term is read back from its print unless it is ambiguous. -/
theorem parse?_chars_iff {t : Term} (hk : NormalKeyword t.keyword)
    (hop : OperatorFree t.keyword.toList) : parse? t.chars = some t ↔ ¬ t.Ambiguous := by
  obtain ⟨r', after, hhead, hparse⟩ := parse?_operator hk hop t.relation (valueChars t.value.toList)
  have hsame := (Relation.head?_chars_append t.relation (valueChars t.value.toList)).2
  rw [head?_valueChars] at hsame
  rw [chars, hparse, Ambiguous, ← hsame]
  constructor
  · intro ht
    have hr : r' = t.relation := congrArg Term.relation (Option.some.inj ht)
    subst hr
    have happ := Relation.eq_append_of_head? hhead
    rw [hhead, List.append_cancel_left happ]
  · intro hs
    rw [hs] at hhead
    cases hhead
    rw [(trimmed_valueChars t.value.toList).trim_eq, decode_valueChars, String.ofList_toList]

theorem scan_chars {t : Term} (hsolid : solid .outside t.keyword.toList = true)
    (hend : Mode.outside.after t.keyword.toList = .outside) :
    solid .outside t.chars = true ∧ Mode.outside.after t.chars = .outside := by
  have hr : solid .outside t.relation.chars = true :=
    solid_of_forall_not_blank (fun c hc => Relation.not_blank_of_mem_chars hc) _
  obtain ⟨hv, hvend⟩ := scan_valueChars t.value.toList
  constructor
  · simp [chars, solid_append, hsolid, hend, hr, Relation.after_chars, hv]
  · simp [chars, Mode.after_append, hend, Relation.after_chars, hvend]

/-! ## What a token holds -/

/-- A term's keyword stands at the start of its token, and its value among what follows. -/
theorem exists_of_parse? {token : List Char} {t : Term} (h : parse? token = some t) :
    ∃ k rest, trim token = k ++ rest ∧ OperatorFree k ∧ normalKeyword k ≠ [] ∧
      t.keyword = String.ofList (normalKeyword k) ∧ t.value.toList.Sublist rest := by
  rw [parse?] at h
  split at h
  · rename_i k r v hsplit
    obtain ⟨hne, rfl⟩ := make?_eq_some_iff.1 h
    refine ⟨k, r.chars ++ v, eq_append_of_splitOperator hsplit,
      operatorFree_of_splitOperator hsplit, hne, rfl, ?_⟩
    rw [String.toList_ofList]
    exact (Quotation.decode_sublist _).trans
      ((trim_sublist v).trans (List.sublist_append_right _ _))
  · rename_i hsplit
    obtain ⟨hne, rfl⟩ := make?_eq_some_iff.1 h
    exact ⟨trim token, [], (List.append_nil _).symm, splitOperator_eq_none_iff.1 hsplit,
      hne, rfl, List.nil_sublist _⟩

theorem normal_of_parse? {token : List Char} {t : Term} (h : parse? token = some t) :
    NormalKeyword t.keyword := by
  rw [parse?] at h
  split at h <;> exact normal_of_make? h

theorem operatorFree_of_parse? {token : List Char} {t : Term} (h : parse? token = some t) :
    OperatorFree t.keyword.toList := by
  obtain ⟨k, rest, -, hop, -, hkey, -⟩ := exists_of_parse? h
  rw [hkey, String.toList_ofList]
  exact hop.normalKeyword

/-! ## The exact round trip -/

theorem operatorFree_iff {cs : List Char} :
    OperatorFree cs ↔ ∀ c ∈ cs, c ∉ ['=', '~', '<', '>'] := by
  refine forall₂_congr fun c _ => ?_
  simp only [Relation.isOperatorChar, Bool.or_eq_false_iff, decide_eq_false_iff_not, List.mem_cons,
    List.not_mem_nil, or_false, not_or, and_assoc]

theorem needsQuotes_eq_false_iff {v : List Char} :
    needsQuotes v = false ↔ ∀ c ∈ v, isBlank c = false ∧ c ≠ '"' := by
  constructor
  · exact forall_of_not_needsQuotes
  · intro h
    refine List.any_eq_false.2 fun c hc => ?_
    simpa using h c hc

/-- A term that was made is read back from its print exactly if its keyword holds no operator and
it is not `<` or `>` with a bare value that begins with `=`. -/
theorem ofText?_print_iff {k v : String} {r : Relation} {t : Term}
    (h : make? k.toList r v.toList = some t) :
    ofText? t.print = some t ↔
      (∀ c ∈ t.keyword.toList, c ∉ ['=', '~', '<', '>']) ∧
        ¬ ((r = .less ∨ r = .greater) ∧ v.toList.head? = some '=' ∧
          ∀ c ∈ v.toList, isBlank c = false ∧ c ≠ '"') := by
  have hk := normal_of_make? h
  have hambiguous : t.Ambiguous ↔ (r = .less ∨ r = .greater) ∧ v.toList.head? = some '=' ∧
      ∀ c ∈ v.toList, isBlank c = false ∧ c ≠ '"' := by
    obtain ⟨-, rfl⟩ := make?_eq_some_iff.1 h
    rw [Ambiguous, String.ofList_toList, needsQuotes_eq_false_iff]
  rw [← operatorFree_iff, ← hambiguous, ofText?, print, String.toList_ofList]
  constructor
  · intro hread
    have hop := operatorFree_of_parse? hread
    exact ⟨hop, (parse?_chars_iff hk hop).1 hread⟩
  · rintro ⟨hop, hplain⟩
    exact (parse?_chars_iff hk hop).2 hplain

/-- A value in quotes with backslashes before a quote and at its end, and one that reads as another
relation. -/
theorem ofText?_print_iff_backslashes :
    ∃ t u : Term,
      make? " Größe\"A ".toList .less "=\\\\\" \\".toList = some t ∧
        t.keyword = "größe\"a" ∧ ofText? t.print = some t ∧
      make? "size".toList .less "=\\\\".toList = some u ∧ ofText? u.print ≠ some u := by
  have ht : make? " Größe\"A ".toList .less "=\\\\\" \\".toList =
      some ⟨"größe\"a", .less, "=\\\\\" \\"⟩ := by decide +kernel
  have hu : make? "size".toList .less "=\\\\".toList = some ⟨"size", .less, "=\\\\"⟩ := by
    decide +kernel
  have hfree : "größe\"a".toList.all (fun c => !Relation.isOperatorChar c) = true := by
    decide +kernel
  refine ⟨_, _, ht, rfl, (ofText?_print_iff ht).2 ⟨?_, ?_⟩, hu, fun hread => ?_⟩
  · exact operatorFree_iff.1 fun c hc => by simpa using List.all_eq_true.1 hfree c hc
  · rintro ⟨-, -, hbare⟩
    exact absurd (needsQuotes_eq_false_iff.2 hbare) (by decide +kernel)
  · exact ((ofText?_print_iff hu).1 hread).2
      ⟨.inl rfl, rfl, needsQuotes_eq_false_iff.1 (by decide +kernel)⟩

/-! ## Tokens without loose blanks -/

/-- A text that is solid begins with no blank, so trimming keeps a start of it. -/
theorem solid_trim {token : List Char} (h : solid .outside token = true) :
    solid .outside (trim token) = true := by
  have hstart : trimStart token = token := by
    cases token with
    | nil => rfl
    | cons c rest =>
      simp only [solid, Bool.and_eq_true, Bool.not_eq_true'] at h
      exact trimStart_cons_of_not_blank (by simpa [Mode.separates] using h.1)
  obtain ⟨after, heq⟩ := trimEnd_prefix_self token
  rw [← heq, solid_append, Bool.and_eq_true] at h
  rw [trim, hstart]
  exact h.1

theorem solid_keyword_of_parse? {token : List Char} {t : Term} (h : parse? token = some t)
    (hsolid : solid .outside token = true) : solid .outside t.keyword.toList = true := by
  obtain ⟨k, rest, heq, -, -, hkey, -⟩ := exists_of_parse? h
  have htoken := solid_trim hsolid
  rw [heq, solid_append, Bool.and_eq_true] at htoken
  rw [hkey, String.toList_ofList, normalKeyword, solid_of_respelled (respelled_lower _)]
  exact solid_trim htoken.1

theorem countP_trim_le (cs : List Char) : (trim cs).countP isBlank ≤ cs.countP isBlank :=
  (trim_sublist cs).countP_le

theorem weight_chars_le {token : List Char} {t : Term} (h : parse? token = some t) :
    weight t.chars ≤ weight token := by
  obtain ⟨k, rest, heq, -, -, hkey, hvalue⟩ := exists_of_parse? h
  have hk : t.keyword.toList.countP isBlank ≤ k.countP isBlank := by
    rw [hkey, String.toList_ofList, normalKeyword, (respelled_lower _).countP_isBlank]
    exact countP_trim_le k
  have hr : t.relation.chars.countP isBlank = 0 :=
    List.countP_eq_zero.2 fun c hc => by simp [Relation.not_blank_of_mem_chars hc]
  have hv : t.value.toList.countP isBlank ≤ rest.countP isBlank := hvalue.countP_le
  have htoken := countP_trim_le token
  rw [heq, List.countP_append] at htoken
  simp only [weight, chars, List.countP_append, countP_valueChars]
  omega

end Term

end ListView
