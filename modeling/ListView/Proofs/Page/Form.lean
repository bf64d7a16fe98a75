import ListView.Proofs.Entity.Decode
import ListView.Proofs.Page.Decode
import ListView.Proofs.Page.Layout

/-!
# Forms of a response

A repeated element of a response may be bare, an array or missing. What a page
decodes to does not depend on the form of its entities, of its filters or of
the terms in them, and an entity does not depend on the form of its permissions
and tags (`decode_congr_form`).
-/

namespace ListView.Page

open Element
open Layout (lastText textOfFilters)

variable {ε α : Type}

section Parts

variable {l : Layout} {keyword : String} (hl : l.Usual) (hkeys : (l.usualKeys keyword).Nodup)
  {s t : Json}

include hl hkeys

/-- Scopes say the same if they list the same entities and agree elsewhere. -/
theorem sameParts_of_entities (hchild : ∀ k, k ≠ keyword → child? t k = child? s k)
    (hentities : occurrences (child? t keyword) = occurrences (child? s keyword)) :
    SameParts l keyword s t := by
  simp only [Layout.usualKeys, List.nodup_cons, List.mem_cons, List.not_mem_nil, or_false,
    not_or] at hkeys
  obtain ⟨⟨hplural, hcounts, hfilters⟩, -⟩ := hkeys
  constructor
  · rw [hl.entitiesNode_eq, hl.entitiesNode_eq, hentities]
  · rw [hl.pagingNode_eq, hl.pagingNode_eq, hchild _ (Ne.symm hplural)]
  · rw [hl.countsNode_eq, hl.countsNode_eq, hchild _ (Ne.symm hcounts)]
  · rw [Layout.filterText, Layout.filterText, Layout.filterNode, Layout.filterNode, hl.filter]
    simp only [hchild _ (Ne.symm hfilters)]

/-- Scopes say the same if their filters have the same text and they agree elsewhere. -/
theorem sameParts_of_filters (hchild : ∀ k, k ≠ Layout.filtersKey → child? t k = child? s k)
    (hfilter : l.filterText t = l.filterText s) : SameParts l keyword s t := by
  simp only [Layout.usualKeys, List.nodup_cons, List.mem_cons, List.not_mem_nil, or_false,
    not_or] at hkeys
  obtain ⟨⟨-, -, hentities⟩, ⟨-, hpaging⟩, hcounts, -⟩ := hkeys
  constructor
  · rw [hl.entitiesNode_eq, hl.entitiesNode_eq, hchild _ hentities]
  · rw [hl.pagingNode_eq, hl.pagingNode_eq, hchild _ hpaging]
  · rw [hl.countsNode_eq, hl.countsNode_eq, hchild _ hcounts]
  · exact hfilter

end Parts

/-- A change under one key of the scope that leaves all parts as they are. -/
theorem decode_eq_of_changed {R : Option Json → Option Json → Prop} [IgnoresNull R] {l : Layout}
    {keyword key : String} {places : Places} {r r' : Json}
    (h : Changed R (.along (l.root ++ [key]) places) (some r) (some r'))
    (hparts : ∀ s t, Changed R (.along [key] places) (some s) (some t) → SameParts l keyword s t)
    (decoder : Json → Except ε α) :
    decode l keyword decoder r' = decode l keyword decoder r ∧
      decodeEmbedded l keyword decoder r' = decodeEmbedded l keyword decoder r := by
  have hobject := h.isObject_eq_of_along
  rw [Places.along_append] at h
  exact decode_eq_of_sameParts hobject (h.path?.rel SameParts.refl hparts) decoder

/-! ## The text of the filter -/

/-- The related nodes are there and have the same text. -/
def KeepsText (R : Option Json → Option Json → Prop) : Prop :=
  ∀ a b, R a b → ∃ v w, a = some v ∧ b = some w ∧ lastText (some w) = lastText (some v)

theorem textOfFilters_eq {R : Option Json → Option Json → Prop} [IgnoresNull R]
    (hR : KeepsText R) {v w : Json}
    (h : Changed R (.along [Layout.termKey] .here) (some v) (some w)) :
    textOfFilters w = textOfFilters v := by
  rcases Changed.of_under h with heq | ⟨fs, gs, hfs, hgs, hkeys⟩
  · cases heq
    rfl
  cases hfs
  cases hgs
  -- The terms may be missing, then the filters speak for themselves.
  have hown : text? (.object gs) = text? (.object fs) := by
    have hkey : Json.lookup textKey fs = Json.lookup textKey gs := (hkeys textKey).eq_of_nowhere
    rw [text?_object, text?_object, hkey]
  have hterm := h.path?
  rw [path?_singleton, path?_singleton] at hterm
  unfold textOfFilters
  rcases hterm.of_here with heq | hrel
  · rw [← heq]
    cases child? (.object fs) Layout.termKey with
    | none => exact hown
    | some term => rfl
  · obtain ⟨x, y, hx, hy, htext⟩ := hR _ _ hrel
    rw [hx, hy]
    exact htext

theorem rel_getLast? {S : Json → Json → Prop} {vs ws : List Json} (h : List.Forall₂ S vs ws) :
    Option.Rel S vs.getLast? ws.getLast? := by
  induction h with
  | nil => exact .none
  | cons hvw hrest ih =>
    cases hrest with
    | nil => exact .some hvw
    | cons _ _ =>
      rw [List.getLast?_cons_cons, List.getLast?_cons_cons]
      exact ih

/-- Terms in any of the filters that keep their text leave the text of the filter as it is. -/
theorem filterText_eq_of_terms {R : Option Json → Option Json → Prop} [IgnoresNull R]
    (hR : KeepsText R) {l : Layout} (hl : l.filter = none) {s t : Json}
    (h : Changed R (.along [Layout.filtersKey] (.each (.along [Layout.termKey] .here)))
      (some s) (some t)) : l.filterText t = l.filterText s := by
  have hfilters := h.path?
  rw [path?_singleton, path?_singleton] at hfilters
  rw [Layout.filterText_eq hl, Layout.filterText_eq hl]
  have hlast := rel_getLast? hfilters.forall₂_occurrences
  generalize (occurrences (child? s Layout.filtersKey)).getLast? = a at hlast
  generalize (occurrences (child? t Layout.filtersKey)).getLast? = b at hlast
  cases hlast with
  | none => rfl
  | some hitem => exact textOfFilters_eq hR hitem

/-! ## Parts in another form -/

/-- The second response is the first but for the form of its entities, of its filters or of the
terms in its filters. -/
inductive Reformed (l : Layout) (keyword : String) (r r' : Json) : Prop where
  | entities : Changed Regrouped (.along (l.root ++ [keyword]) .here) (some r) (some r') →
      Reformed l keyword r r'
  | filters : Changed Regrouped (.along (l.root ++ [Layout.filtersKey]) .here) (some r) (some r') →
      Reformed l keyword r r'
  | terms : Changed Bracketed (.along (l.root ++ [Layout.filtersKey])
      (.each (.along [Layout.termKey] .here))) (some r) (some r') → Reformed l keyword r r'

theorem keepsText_bracketed : KeepsText Bracketed := by
  intro a b h
  have hlist := h.occurrences_eq
  cases h with
  | intro _ _ => exact ⟨_, _, rfl, rfl, congrArg (fun vs => vs.getLast?.bind text?) hlist⟩

theorem decode_eq_of_reformed {l : Layout} (hl : l.Usual) {keyword : String}
    (hkeys : (l.usualKeys keyword).Nodup) {r r' : Json} (h : Reformed l keyword r r')
    (decoder : Json → Except ε α) :
    decode l keyword decoder r' = decode l keyword decoder r ∧
      decodeEmbedded l keyword decoder r' = decodeEmbedded l keyword decoder r := by
  cases h with
  | entities h =>
    refine decode_eq_of_changed h (fun s t hscope => ?_) decoder
    have hentities := hscope.path?.occurrences_eq
    rw [path?_singleton, path?_singleton] at hentities
    exact sameParts_of_entities hl hkeys (fun _ hk => hscope.child?_eq_of_along hk) hentities
  | filters h =>
    refine decode_eq_of_changed h (fun s t hscope => ?_) decoder
    have hfilters := hscope.path?.occurrences_eq
    rw [path?_singleton, path?_singleton] at hfilters
    refine sameParts_of_filters hl hkeys (fun _ hk => hscope.child?_eq_of_along hk) ?_
    rw [Layout.filterText_eq hl.filter, Layout.filterText_eq hl.filter, hfilters]
  | terms h =>
    refine decode_eq_of_changed h (fun s t hscope => ?_) decoder
    exact sameParts_of_filters hl hkeys (fun _ hk => hscope.child?_eq_of_along hk)
      (filterText_eq_of_terms keepsText_bracketed hl.filter hscope)

/-- A page does not depend on the form of its parts, and an entity not on that of its lists. -/
theorem decode_congr_form :
    (∀ {l : Layout}, l.Usual → ∀ {keyword : String}, (l.usualKeys keyword).Nodup →
      ∀ {r r' : Json}, Reformed l keyword r r' → ∀ decoder : Json → Except ε α,
        decode l keyword decoder r' = decode l keyword decoder r ∧
          decodeEmbedded l keyword decoder r' = decodeEmbedded l keyword decoder r) ∧
    ∀ (readTime : List Char → Option Timestamp) {e f : Json},
      Changed Regrouped (.along ["permissions", "permission"] .here) (some e) (some f) ∨
        Changed Regrouped (.along ["user_tags", "tag"] .here) (some e) (some f) →
      Entity.decode readTime f = Entity.decode readTime e :=
  ⟨fun hl _ hkeys _ _ h decoder => decode_eq_of_reformed hl hkeys h decoder,
    fun _ _ _ => Entity.decode_eq_of_regrouped⟩

/-- A list one level down. -/
def nested : Layout := { Layout.default with root := ["reply"] }

def reply (fields : List (String × Json)) : Json := .object [("reply", .object fields)]

theorem decode_congr_form_nested :
    (decode nested "task" (Entity.decode Timestamp.read?)
        (reply [("task", .array [.object [("_id", .int 7)]])]) =
        decode nested "task" (Entity.decode Timestamp.read?)
          (reply [("task", .object [("_id", .int 7)])]) ∧
      decodeEmbedded nested "task" (Entity.decode Timestamp.read?)
          (reply [("task", .array [.object [("_id", .int 7)]])]) =
        decodeEmbedded nested "task" (Entity.decode Timestamp.read?)
          (reply [("task", .object [("_id", .int 7)])])) ∧
    (decode nested "task" (Entity.decode Timestamp.read?)
        (reply [("filters", .array [.null, .object [("term", .array [.string "rows=5"])]])]) =
        decode nested "task" (Entity.decode Timestamp.read?)
          (reply [("filters", .array [.null, .object [("term", .string "rows=5")]])]) ∧
      decodeEmbedded nested "task" (Entity.decode Timestamp.read?)
          (reply [("filters", .array [.null, .object [("term", .array [.string "rows=5"])]])]) =
        decodeEmbedded nested "task" (Entity.decode Timestamp.read?)
          (reply [("filters", .array [.null, .object [("term", .string "rows=5")]])])) ∧
    Entity.decode Timestamp.read?
        (.object [("user_tags", .object [("tag", .array [])]), ("_id", .int 7)]) =
      Entity.decode Timestamp.read?
        (.object [("user_tags", .object [("tag", .null)]), ("_id", .int 7)]) := by
  have hl : nested.Usual := ⟨rfl, rfl, rfl, rfl⟩
  have hkeys : (nested.usualKeys "task").Nodup := by decide
  refine ⟨?_, ?_, ?_⟩
  · refine decode_congr_form.1 hl hkeys (.entities ?_) (Entity.decode Timestamp.read?)
    refine Changed.along_field (Changed.along_field (.here (.inl (.intro rfl ?_))) []) []
    intro items h
    cases h
  · refine decode_congr_form.1 hl hkeys (.terms ?_) (Entity.decode Timestamp.read?)
    refine Changed.along_field (Changed.along_field ?_ []) []
    refine .cons (.same _ _) (.cons ?_ (.same _ _))
    refine Changed.along_field (.here (.intro rfl ?_)) []
    intro items h
    cases h
  · refine (decode_congr_form (ε := Entity.Error) (α := Entity)).2 Timestamp.read? (.inr ?_)
    refine Changed.along_field (Changed.along_field ?_ []) [("_id", .int 7)]
    exact .here (.inr ⟨.null, .empty⟩)

end ListView.Page
