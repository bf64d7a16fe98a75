import ListView.Proofs.Filter.Equality
import ListView.Proofs.Filter.Insert

/-!
# Filters put together

What `and` does, up to equality of filters and in the order of terms. A filter
stands for its terms put in one by one, so terms may be put into the second
filter or into the result: this is exact if none of them is another's rival
(`and_foldl_insert`), and holds up to order in any case
(`and_foldl_insert_alike`). From it follow the laws of `and`
(`andLaws_of_reachable`), and that a text made of two is read as the conjunction
of the filters of both (`ofString_append_beq_and`).
-/

namespace ListView.Filter

open Text Token

variable {f g h : Filter}

/-! ## Look-up -/

/-- A term of the first filter is found unless the second has its keyword or a rival of it. -/
theorem term?_and (f : Filter) (hg : g.WellFormed) (k : String) :
    (f.and g).term? k =
      if g.has k then g.term? k
      else if (Term.normalizeKeyword k = Keyword.sort ∧ g.has Keyword.sortReverse = true) ∨
          (Term.normalizeKeyword k = Keyword.sortReverse ∧ g.has Keyword.sort = true) then none
      else f.term? k := by
  have hne : Keyword.sortReverse ≠ Keyword.sort := by decide
  rw [term?, find?_and f hg, has, has, has, term?, term?, term?, term?, normal_sort.2,
    normal_sortReverse.2]
  cases hk : g.find? (Term.normalizeKeyword k) with
  | some t => rfl
  | none =>
    rw [Option.none_or, Option.isSome_none, if_neg Bool.false_ne_true]
    unfold Keyword.rival?
    by_cases h1 : Term.normalizeKeyword k = Keyword.sort
    · simp [h1, Ne.symm hne]
    · by_cases h2 : Term.normalizeKeyword k = Keyword.sortReverse
      · simp [h2, hne]
      · simp [h1, h2]

theorem find?_and_of_unrivalled (f : Filter) (hg : g.WellFormed) {k : String}
    (h : ∀ rival, Keyword.rival? k = some rival → f.find? k = none ∨ g.find? rival = none) :
    (f.and g).find? k = (g.find? k).or (f.find? k) := by
  rw [find?_and f hg]
  cases hrival : Keyword.rival? k with
  | none => rfl
  | some rival =>
    rcases h rival hrival with hf | hg
    · rw [hf, ite_self]
    · rw [Option.bind_some, hg]
      rfl

/-! ## Terms put in before or after -/

theorem and_insert (hg : g.WellFormed) {t : Term}
    (h : ∀ u ∈ g.terms, Keyword.rival? t.keyword ≠ some u.keyword) (f : Filter) :
    f.and (g.insert t) = (f.and g).insert t := by
  rw [and, insert, withoutRival_of_not_mem h, foldl_insert_replaceOrAppend hg.distinct h]
  rfl

/-- The terms have the order in which they come into the result, if none of them removes another. -/
theorem and_foldl_insert (hg : g.WellFormed) {terms : List Term}
    (hnormal : ∀ t ∈ terms, Term.NormalKeyword t.keyword)
    (hg' : ∀ t ∈ terms, ∀ u ∈ g.terms, Keyword.rival? t.keyword ≠ some u.keyword)
    (hterms : ∀ t ∈ terms, ∀ u ∈ terms, Keyword.rival? t.keyword ≠ some u.keyword) (f : Filter) :
    f.and (terms.foldl insert g) = terms.foldl insert (f.and g) := by
  induction terms generalizing g with
  | nil => rfl
  | cons t rest ih =>
    have hrest : ∀ {u}, u ∈ rest → u ∈ t :: rest := List.mem_cons_of_mem t
    have hkept : ∀ u ∈ rest, ∀ v ∈ (g.insert t).terms,
        Keyword.rival? u.keyword ≠ some v.keyword := by
      intro u hu v hv
      rcases mem_of_mem_insert hv with rfl | hv
      · exact hterms u (hrest hu) v List.mem_cons_self
      · exact hg' u (hrest hu) v hv
    rw [List.foldl_cons, List.foldl_cons, ← and_insert hg (hg' t List.mem_cons_self),
      ih (hg.insert (hnormal t List.mem_cons_self)) (fun u hu => hnormal u (hrest hu)) hkept
        fun u hu v hv => hterms u (hrest hu) v (hrest hv)]

/-- A term that removes its rival from the second filter does so in the result. -/
theorem and_insert_alike (hg : g.WellFormed) {t : Term} (ht : Term.NormalKeyword t.keyword)
    (f : Filter) : (f.and (g.insert t)).Alike ((f.and g).insert t) := by
  intro k
  rw [find?_and f (hg.insert ht), find?_insert, find?_insert, find?_and f hg]
  by_cases hk : t.keyword = k
  · simp [hk]
  · rw [if_neg hk, if_neg hk]
    by_cases hrival : Keyword.rival? t.keyword = some k
    · have hbind : (Keyword.rival? k).bind (g.insert t).find? = some t := by
        rw [rival?_comm.1 hrival, Option.bind_some, find?_insert, if_pos rfl]
      simp [hrival, hbind]
    · have hbind : (Keyword.rival? k).bind (g.insert t).find? =
          (Keyword.rival? k).bind g.find? := by
        cases hr : Keyword.rival? k with
        | none => rfl
        | some rival =>
          have hne : t.keyword ≠ rival := by
            rintro rfl
            exact hrival (rival?_comm.1 hr)
          have hother : Keyword.rival? t.keyword ≠ some rival := fun h => hk (rival?_inj h hr)
          rw [Option.bind_some, Option.bind_some, find?_insert, if_neg hne, if_neg hother]
      rw [if_neg hrival, if_neg hrival, hbind]

theorem Alike.foldl_insert (H : f.Alike g) (terms : List Term) :
    (terms.foldl Filter.insert f).Alike (terms.foldl Filter.insert g) := by
  induction terms generalizing f g with
  | nil => exact H
  | cons t rest ih => exact ih (H.insert t)

theorem and_foldl_insert_alike (hg : g.WellFormed) {terms : List Term}
    (hnormal : ∀ t ∈ terms, Term.NormalKeyword t.keyword) (f : Filter) :
    (f.and (terms.foldl insert g)).Alike (terms.foldl insert (f.and g)) := by
  induction terms generalizing g with
  | nil => exact fun _ => rfl
  | cons t rest ih =>
    have ht := hnormal t List.mem_cons_self
    have hrest := ih (hg.insert ht) fun u hu => hnormal u (List.mem_cons_of_mem t hu)
    exact fun k => (hrest k).trans ((and_insert_alike hg ht f).foldl_insert rest k)

/-! ## Laws -/

theorem empty_and (hf : f.WellFormed) : (∅ : Filter).and f = f := @foldl_insert [] _ hf

theorem and_idem (hf : f.WellFormed) : f.and f = f := hf.foldl_insert_of_subset fun _ ht => ht

theorem and_assoc_alike (f : Filter) (hg : g.WellFormed) (hh : h.WellFormed) :
    ((f.and g).and h).Alike (f.and (g.and h)) :=
  fun k => (and_foldl_insert_alike hg (fun _ ht => hh.normal_of_mem ht) f k).symm

/-- Up to order only: a sort that is turned around and back has moved to the end. -/
example :
    (((ofString "sort=id tag=1").and (ofString "sort-reverse=id")).and
        (ofString "sort=date")).print = "tag=1 sort=date" ∧
      ((ofString "sort=id tag=1").and ((ofString "sort-reverse=id").and
        (ofString "sort=date"))).print = "sort=date tag=1" := by
  decide +kernel

theorem mem_and_of_mem (f : Filter) (hf : f.WellFormed) (hg : g.WellFormed) {t : Term}
    (ht : t ∈ g.terms) : t ∈ (f.and g).terms := by
  have hfind : g.find? t.keyword = some t := hg.find?_eq_some_iff.2 ⟨ht, rfl⟩
  have hand : (f.and g).find? t.keyword = some t := by
    rw [find?_and f hg, hfind]
    rfl
  exact ((hf.and hg).find?_eq_some_iff.1 hand).1

/-- A filter that was put in leaves nothing for a second time. -/
theorem and_and_self (hf : f.WellFormed) (hg : g.WellFormed) : (f.and g).and g = f.and g :=
  (hf.and hg).foldl_insert_of_subset fun _ ht => mem_and_of_mem f hf hg ht

theorem and_comm_alike (hf : f.WellFormed) (hg : g.WellFormed)
    (hkeys : ∀ k, f.find? k = none ∨ g.find? k = none)
    (hrival : ∀ k rival, Keyword.rival? k = some rival →
      f.find? k = none ∨ g.find? rival = none) :
    (f.and g).Alike (g.and f) := by
  intro k
  rw [find?_and_of_unrivalled f hg (hrival k), find?_and_of_unrivalled g hf]
  · rcases hkeys k with hk | hk <;> simp [hk]
  · intro rival hk
    exact (hrival rival k (rival?_comm.1 hk)).symm

/-- The laws of `and`: it looks up in the second filter first, a sort in one direction counting for
both, and up to order it is an idempotent monoid that commutes on filters with nothing in common. -/
structure AndLaws (f g h : Filter) : Prop where
  term : ∀ k, (f.and g).term? k =
    if g.has k then g.term? k
    else if (Term.normalizeKeyword k = Keyword.sort ∧ g.has Keyword.sortReverse = true) ∨
        (Term.normalizeKeyword k = Keyword.sortReverse ∧ g.has Keyword.sort = true) then none
    else f.term? k
  assoc : ((f.and g).and h == f.and (g.and h)) = true
  empty_and : ((∅ : Filter).and f).terms = f.terms
  and_empty : (f.and ∅).terms = f.terms
  idem : (f.and f).terms = f.terms
  absorb : ((f.and g).and g == f.and g) = true
  comm : (∀ k, ¬ (f.has k = true ∧ g.has k = true)) →
    ¬ (f.has Keyword.sort = true ∧ g.has Keyword.sortReverse = true) →
    ¬ (f.has Keyword.sortReverse = true ∧ g.has Keyword.sort = true) →
    (f.and g == g.and f) = true

theorem andLaws_of_reachable (hf : Reachable f) (hg : Reachable g) (hh : Reachable h) :
    AndLaws f g h where
  term := term?_and f hg.wellFormed
  assoc := by
    have hwf := (hf.wellFormed.and hg.wellFormed).and hh.wellFormed
    have hwf' := hf.wellFormed.and (hg.wellFormed.and hh.wellFormed)
    exact (beq_iff_alike hwf hwf').2 (and_assoc_alike f hg.wellFormed hh.wellFormed)
  empty_and := by rw [Filter.empty_and hf.wellFormed]
  and_empty := rfl
  idem := by rw [and_idem hf.wellFormed]
  absorb := by
    rw [and_and_self hf.wellFormed hg.wellFormed]
    exact (beq_iff_perm (hf.wellFormed.and hg.wellFormed)).2 (.refl _)
  comm := by
    intro hkeys hsort hreverse
    have hwf := hf.wellFormed
    have hwg := hg.wellFormed
    -- two look-ups that both succeed would be of keywords that both filters have
    have hnone : ∀ k l, ¬ (f.has k = true ∧ g.has l = true) →
        f.find? k = none ∨ g.find? l = none := by
      intro k l hnot
      cases hk : f.find? k with
      | none => exact .inl rfl
      | some t =>
        cases hl : g.find? l with
        | none => exact .inr rfl
        | some u => exact absurd ⟨hwf.has_of_find? hk, hwg.has_of_find? hl⟩ hnot
    refine (beq_iff_alike (hwf.and hwg) (hwg.and hwf)).2
      (and_comm_alike hwf hwg (fun k => hnone k k (hkeys k)) fun k rival hrival => ?_)
    rcases rival?_eq_some hrival with ⟨rfl, rfl⟩ | ⟨rfl, rfl⟩
    · exact hnone _ _ hsort
    · exact hnone _ _ hreverse

/-- Filters of which the first two have nothing in common, and the third turns the sort around. -/
theorem andLaws_of_reachable_sorted :
    ∃ f g h, Reachable f ∧ Reachable g ∧ Reachable h ∧
      f.has Keyword.sort = true ∧ h.has Keyword.sortReverse = true ∧
      (f.and g == g.and f) = true ∧ (f.and g).terms ≠ (g.and f).terms ∧
      (f.and h).term? " SORT " = none ∧
      ((f.and g).and h == f.and (g.and h)) = true ∧ ((f.and h).and h == f.and h) = true := by
  let f := ofString "sort=id name~\"a b\""
  let g := (ofString "rows=5").setWith " TAG " .less "=x"
  let h := ofString "tag=1 sort-reverse=date"
  have hf : Reachable f := .ofString _
  have hg : Reachable g := (Reachable.ofString _).setWith _ _ _
  have hh : Reachable h := .ofString _
  have hapart : ∀ k ∈ f.keywords, k ∉ g.keywords := by decide +kernel
  have hlaws := andLaws_of_reachable hf hg hh
  have hlaws' := andLaws_of_reachable hf hh hg
  refine ⟨f, g, h, hf, hg, hh, by decide +kernel, by decide +kernel, ?_, by decide +kernel, ?_,
    hlaws.assoc, hlaws'.absorb⟩
  · refine hlaws.comm (fun k hk => ?_) (by decide +kernel) (by decide +kernel)
    exact hapart _ (has_iff_mem_keywords.1 hk.1) (has_iff_mem_keywords.1 hk.2)
  · rw [hlaws'.term]
    decide +kernel

/-! ## Texts put together -/

/-- The terms that the tokens of a text spell, in the order of the text. -/
def termsOf (text : String) : List Term := (tokens text.toList).filterMap Term.parse?

theorem ofString_eq_foldl (text : String) : ofString text = (termsOf text).foldl insert ∅ :=
  ofString_eq text

theorem normal_of_mem_termsOf {text : String} {t : Term} (h : t ∈ termsOf text) :
    Term.NormalKeyword t.keyword := by
  obtain ⟨token, -, hparse⟩ := List.mem_filterMap.1 h
  exact Term.normal_of_parse? hparse

theorem termsOf_append {s : String} (hs : Mode.outside.after s.toList = .outside) {w : Char}
    (hw : isBlank w = true) (t : String) :
    termsOf (s ++ String.singleton w ++ t) = termsOf s ++ termsOf t := by
  rw [termsOf, String.toList_append, String.toList_append, String.toList_singleton,
    List.append_assoc, List.singleton_append, tokens_append hs hw, List.filterMap_append]
  rfl

/-- A text that ends outside quotes, a blank and another text are read as the conjunction of what
both are read as, term for term unless the second sorts in both directions. -/
theorem ofString_append_beq_and {s t : String} {w : Char}
    (hs : Mode.outside.after s.toList = .outside) (hw : isBlank w = true) :
    (ofString (s ++ String.singleton w ++ t) == (ofString s).and (ofString t)) = true ∧
      (¬ (Keyword.sort ∈ (termsOf t).map (·.keyword) ∧
          Keyword.sortReverse ∈ (termsOf t).map (·.keyword)) →
        (ofString (s ++ String.singleton w ++ t)).terms =
          ((ofString s).and (ofString t)).terms) := by
  have hread : ofString (s ++ String.singleton w ++ t) =
      (termsOf t).foldl insert ((ofString s).and ∅) := by
    rw [ofString_eq_foldl, termsOf_append hs hw, List.foldl_append, ← ofString_eq_foldl]
    rfl
  have hnormal : ∀ u ∈ termsOf t, Term.NormalKeyword u.keyword := fun _ => normal_of_mem_termsOf
  constructor
  · have hwf := WellFormed.ofString (s ++ String.singleton w ++ t)
    refine (beq_iff_alike hwf ((WellFormed.ofString s).and (.ofString t))).2 fun k => ?_
    rw [hread, ofString_eq_foldl t]
    exact (and_foldl_insert_alike .empty hnormal (ofString s) k).symm
  · intro hone
    have hunrivalled : ∀ u ∈ termsOf t, ∀ v ∈ termsOf t,
        Keyword.rival? u.keyword ≠ some v.keyword := fun _ hu _ hv =>
      rival?_ne_of_mem hone (List.mem_map_of_mem hu) (List.mem_map_of_mem hv)
    rw [hread, ofString_eq_foldl t, and_foldl_insert .empty hnormal
      (fun _ _ v hv => absurd hv List.not_mem_nil) hunrivalled]

/-- An ideographic blank between quoted values and terms that come again. -/
theorem ofString_append_beq_and_quoted :
    Mode.outside.after "a=\"x \\\" y\" sort=id Rows=5".toList = .outside ∧
      isBlank '\u3000' = true ∧
      (ofString ("a=\"x \\\" y\" sort=id Rows=5" ++ String.singleton '\u3000' ++
          "rows=7 sort-reverse=a b=1 =junk b=\"2") ==
        (ofString "a=\"x \\\" y\" sort=id Rows=5").and
          (ofString "rows=7 sort-reverse=a b=1 =junk b=\"2")) = true ∧
      (ofString ("a=\"x \\\" y\" sort=id Rows=5" ++ String.singleton '\u3000' ++
          "rows=7 sort-reverse=a b=1 =junk b=\"2")).terms =
        ((ofString "a=\"x \\\" y\" sort=id Rows=5").and
          (ofString "rows=7 sort-reverse=a b=1 =junk b=\"2")).terms := by
  have hs : Mode.outside.after "a=\"x \\\" y\" sort=id Rows=5".toList = .outside := by
    decide +kernel
  have hw : isBlank '\u3000' = true := by decide +kernel
  obtain ⟨hsame, hterms⟩ :=
    ofString_append_beq_and (t := "rows=7 sort-reverse=a b=1 =junk b=\"2") hs hw
  exact ⟨hs, hw, hsame, hterms (by decide +kernel)⟩

end ListView.Filter
