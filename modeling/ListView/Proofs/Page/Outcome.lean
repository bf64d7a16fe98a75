import ListView.Entity
import ListView.Proofs.Page.Decode
import ListView.Proofs.Page.Layout

/-!
# Outcomes of decoding

A page decodes as a whole or not at all. The first of its elements that fails
is reported, if there is one; else the page holds what each element decodes to,
and nothing that stands outside the elements has a say in that
(`decode_allOrNothing`).
-/

namespace ListView.Page

open Element

variable {ε α : Type}

/-! ## The first failure -/

/-- The element at this place fails for this cause, and all before it decode. -/
structure FailsFirst (decoder : Json → Except ε α) (elements : List Json) (i : Nat)
    (cause : ε) : Prop where
  fails : ∃ e, elements[i]? = some e ∧ decoder e = .error cause
  before : ∀ e ∈ elements.take i, ∃ a, decoder e = .ok a

section Failure

variable {decoder : Json → Except ε α} {element : Json} {rest : List Json} {cause : ε}

theorem not_failsFirst_nil (i : Nat) : ¬ FailsFirst decoder [] i cause := by
  rintro ⟨⟨e, he, -⟩, -⟩
  cases he

theorem failsFirst_cons_zero :
    FailsFirst decoder (element :: rest) 0 cause ↔ decoder element = .error cause := by
  constructor
  · rintro ⟨⟨e, he, hfails⟩, -⟩
    cases he
    exact hfails
  · intro h
    exact ⟨⟨element, rfl, h⟩, nofun⟩

theorem failsFirst_cons_succ {i : Nat} :
    FailsFirst decoder (element :: rest) (i + 1) cause ↔
      (∃ a, decoder element = .ok a) ∧ FailsFirst decoder rest i cause := by
  constructor
  · rintro ⟨hfails, hbefore⟩
    exact ⟨hbefore _ List.mem_cons_self, hfails, fun e he => hbefore e (List.mem_cons_of_mem _ he)⟩
  · rintro ⟨hfirst, hfails, hbefore⟩
    refine ⟨hfails, fun e he => ?_⟩
    rcases List.mem_cons.1 he with rfl | he
    · exact hfirst
    · exact hbefore e he

variable {a : α} {c : ε}

theorem decodeFrom_cons_of_error (h : decoder element = .error c) (keyword : String) (index : Nat) :
    decodeFrom decoder keyword index (element :: rest) = .error (.entity keyword index c) := by
  rw [decodeFrom, h]
  rfl

theorem decodeFrom_cons_of_ok (h : decoder element = .ok a) (keyword : String) (index : Nat) :
    decodeFrom decoder keyword index (element :: rest) =
      (decodeFrom decoder keyword (index + 1) rest).map (a :: ·) := by
  rw [decodeFrom, h]
  cases hrest : decodeFrom decoder keyword (index + 1) rest <;> rfl

end Failure

theorem decodeFrom_eq_error_iff {decoder : Json → Except ε α} {keyword : String}
    {elements : List Json} {index : Nat} {error : DecodeError ε} :
    decodeFrom decoder keyword index elements = .error error ↔
      ∃ i cause, error = .entity keyword (index + i) cause ∧
        FailsFirst decoder elements i cause := by
  induction elements generalizing index with
  | nil =>
    constructor
    · nofun
    · rintro ⟨i, cause, -, h⟩
      exact absurd h (not_failsFirst_nil i)
  | cons element rest ih =>
    cases hdecoder : decoder element with
    | error c =>
      rw [decodeFrom_cons_of_error hdecoder]
      constructor
      · intro h
        cases h
        exact ⟨0, c, rfl, failsFirst_cons_zero.2 hdecoder⟩
      · rintro ⟨i, cause, rfl, h⟩
        cases i with
        | zero =>
          cases hdecoder.symm.trans (failsFirst_cons_zero.1 h)
          rfl
        | succ i =>
          obtain ⟨⟨a, ha⟩, -⟩ := failsFirst_cons_succ.1 h
          cases hdecoder.symm.trans ha
    | ok a =>
      have hmap : decodeFrom decoder keyword index (element :: rest) = .error error ↔
          decodeFrom decoder keyword (index + 1) rest = .error error := by
        rw [decodeFrom_cons_of_ok hdecoder]
        cases decodeFrom decoder keyword (index + 1) rest <;> simp [Except.map]
      rw [hmap, ih]
      constructor
      · rintro ⟨i, cause, rfl, h⟩
        refine ⟨i + 1, cause, ?_, failsFirst_cons_succ.2 ⟨⟨a, hdecoder⟩, h⟩⟩
        rw [Nat.add_right_comm, Nat.add_assoc]
      · rintro ⟨i, cause, rfl, h⟩
        cases i with
        | zero => cases hdecoder.symm.trans (failsFirst_cons_zero.1 h)
        | succ i =>
          refine ⟨i, cause, ?_, (failsFirst_cons_succ.1 h).2⟩
          rw [Nat.add_right_comm, Nat.add_assoc]

theorem map_eq_of_decodeFrom_eq_ok {decoder : Json → Except ε α} {keyword : String}
    {elements : List Json} {index : Nat} {entities : List α}
    (h : decodeFrom decoder keyword index elements = .ok entities) :
    elements.map decoder = entities.map .ok := by
  induction elements generalizing index entities with
  | nil =>
    cases h
    rfl
  | cons element rest ih =>
    cases hdecoder : decoder element with
    | error c =>
      rw [decodeFrom_cons_of_error hdecoder] at h
      cases h
    | ok a =>
      rw [decodeFrom_cons_of_ok hdecoder] at h
      cases hrest : decodeFrom decoder keyword (index + 1) rest with
      | error error =>
        rw [hrest] at h
        cases h
      | ok others =>
        rw [hrest] at h
        cases h
        rw [List.map_cons, List.map_cons, hdecoder, ih hrest]

/-! ## The elements -/

/-- The elements of a response that are to become entities. -/
def elements (l : Layout) (keyword : String) (response : Json) : List Json :=
  occurrences (l.entitiesNode keyword (scope l response).value)

theorem elements_eq (l : Layout) (keyword : String) (response : Json) :
    elements l keyword response = occurrences (path? response (l.entitiesPath keyword)) := by
  rw [elements, Layout.entitiesNode, Layout.locate_eq, Layout.entitiesPath, path?_append, scope]
  cases path? response l.root with
  | some node => rfl
  | none => cases l.entities.getD [keyword] <;> rfl

theorem elements_put {l : Layout} {keyword : String} {keys : List String}
    (hkeys : ¬ keys <+: l.entitiesPath keyword) (hpath : ¬ l.entitiesPath keyword <+: keys)
    {node : Option Json} {r r' : Json} (h : put keys node (some r) = some r') :
    elements l keyword r' = elements l keyword r := by
  have hput := bind_path?_put hkeys hpath node (some r)
  rw [h] at hput
  rw [elements_eq, elements_eq]
  exact congrArg occurrences hput

theorem isObject_put {keys : List String} (hne : keys ≠ []) {node tree : Option Json} {r : Json}
    (h : put keys node tree = some r) : r.isObject = true := by
  obtain ⟨key, rest, rfl⟩ := List.exists_cons_of_ne_nil hne
  cases h
  rfl

/-! ## Without a list -/

theorem not_isObject_scope {l : Layout} {r : Json}
    (h : ∀ scope, path? r l.root = some scope → scope.isObject = false) :
    (scope l r).value.isObject = false := by
  unfold scope
  cases hroot : path? r l.root with
  | some node => exact h node hroot
  | none => rfl

theorem value_readFilter_eq_empty {l : Layout} {s : Json} (h : l.filterText s = none) :
    (readFilter l s).value = ∅ := by
  rw [readFilter, h]
  rfl

theorem value_decodeBy_of_rootless {paging : Json → Option Json} {l : Layout} {keyword : String}
    {decoder : Json → Except ε α} (hl : l.Usual)
    (hpaging : ∀ s : Json, s.isObject = false → paging s = none) {r : Json}
    (h : r.isObject = true)
    (hroot : ∀ scope, path? r l.root = some scope → scope.isObject = false) :
    elements l keyword r = [] ∧
      (decodeBy paging l keyword decoder r).value = .ok ⟨[], ∅, .zero⟩ := by
  have hscope := not_isObject_scope hroot
  rw [value_decodeBy h, elements, hl.entitiesNode_eq_none hscope, hl.countsNode_eq_none hscope,
    value_readFilter_eq_empty (Layout.filterText_eq_none hscope hl.filter), hpaging _ hscope]
  exact ⟨rfl, rfl⟩

/-! ## The outcome -/

/-- What comes of a response is up to its elements alone: it is no object, or the first element that
fails is reported, or there is a page with what each of them decodes to. -/
structure AllOrNothing (l : Layout) (keyword : String) (decoder : Json → Except ε α)
    (read : Json → Except (DecodeError ε) (Page α)) : Prop where
  notAnObject : ∀ r, read r = .error .notAnObject ↔ r.isObject = false
  failure : ∀ r, r.isObject = true → ∀ k i cause,
    read r = .error (.entity k i cause) ↔
      k = keyword ∧ FailsFirst decoder (elements l keyword r) i cause
  page : ∀ r, r.isObject = true →
    (∀ i cause, ¬ FailsFirst decoder (elements l keyword r) i cause) →
      ∃ p, read r = .ok p ∧ (elements l keyword r).map decoder = p.entities.map .ok
  /-- A root that leads to no object leads to an empty page. -/
  rootless : l.Usual → ∀ r, r.isObject = true →
    (∀ scope, path? r l.root = some scope → scope.isObject = false) →
      elements l keyword r = [] ∧ read r = .ok ⟨[], ∅, .zero⟩
  /-- A node at any place apart from the elements, such as the filter, the counts or the paging. -/
  elsewhere : ∀ r, r.isObject = true → ∀ keys, ¬ keys <+: l.entitiesPath keyword →
    ¬ l.entitiesPath keyword <+: keys → ∀ node r', put keys node (some r) = some r' →
      (read r').map entities = (read r).map entities

section Outcome

variable {paging : Json → Option Json} {l : Layout} {keyword : String}
  {decoder : Json → Except ε α}

theorem map_entities_decodeBy (paging : Json → Option Json) {r : Json} (h : r.isObject = true) :
    (decodeBy paging l keyword decoder r).value.map entities =
      decodeFrom decoder keyword 0 (elements l keyword r) := by
  rw [value_decodeBy h]
  unfold elements
  cases decodeFrom decoder keyword 0
      (occurrences (l.entitiesNode keyword (scope l r).value)) <;> rfl

theorem value_decodeBy_eq_error_iff {r : Json} (h : r.isObject = true) {error : DecodeError ε} :
    (decodeBy paging l keyword decoder r).value = .error error ↔
      ∃ i cause, error = .entity keyword i cause ∧
        FailsFirst decoder (elements l keyword r) i cause := by
  have hfrom : decodeFrom decoder keyword 0 (elements l keyword r) = .error error ↔ _ :=
    decodeFrom_eq_error_iff
  simp only [Nat.zero_add] at hfrom
  rw [← hfrom, ← map_entities_decodeBy paging h]
  cases (decodeBy paging l keyword decoder r).value <;> simp [Except.map]

theorem allOrNothing_decodeBy
    (hpaging : l.Usual → ∀ s : Json, s.isObject = false → paging s = none) :
    AllOrNothing l keyword decoder fun r => (decodeBy paging l keyword decoder r).value where
  notAnObject r := by
    cases h : r.isObject with
    | false => simp [value_decodeBy_of_not_object h]
    | true =>
      rw [value_decodeBy_eq_error_iff h]
      constructor
      · rintro ⟨i, cause, herror, -⟩
        cases herror
      · nofun
  failure r h k i cause := by
    rw [value_decodeBy_eq_error_iff h]
    constructor
    · rintro ⟨i', cause', herror, hfails⟩
      cases herror
      exact ⟨rfl, hfails⟩
    · rintro ⟨rfl, hfails⟩
      exact ⟨i, cause, rfl, hfails⟩
  page r h hok := by
    cases hread : (decodeBy paging l keyword decoder r).value with
    | error error =>
      obtain ⟨i, cause, -, hfails⟩ := (value_decodeBy_eq_error_iff h).1 hread
      exact absurd hfails (hok i cause)
    | ok p =>
      have hfrom : _ = decodeFrom decoder keyword 0 (elements l keyword r) :=
        map_entities_decodeBy paging h
      rw [hread] at hfrom
      exact ⟨p, rfl, map_eq_of_decodeFrom_eq_ok hfrom.symm⟩
  rootless hl r h hroot := value_decodeBy_of_rootless hl (hpaging hl) h hroot
  elsewhere r h keys hkeys hpath node r' hput := by
    have hne : keys ≠ [] := by
      rintro rfl
      exact hkeys List.nil_prefix
    rw [map_entities_decodeBy paging h, map_entities_decodeBy paging (isObject_put hne hput),
      elements_put hkeys hpath hput]

end Outcome

/-- A page decodes as a whole or not at all, and only its elements can make it fail. -/
theorem decode_allOrNothing (l : Layout) (keyword : String) (decoder : Json → Except ε α) :
    AllOrNothing l keyword decoder (fun r => (decode l keyword decoder r).value) ∧
      AllOrNothing l keyword decoder (fun r => (decodeEmbedded l keyword decoder r).value) :=
  ⟨allOrNothing_decodeBy fun hl _ hs => hl.pagingNode_eq_none hs,
    allOrNothing_decodeBy fun hl _ hs => hl.embeddedPagingNode_eq_none hs⟩

theorem decode_allOrNothing_second :
    (decode .default "task" (Entity.decode Timestamp.read?)
      (.object [("task", .array [.object [("_id", .int 1)], .object [], .bool true])])).value =
        .error (.entity "task" 1 .noId) ∧
    (decodeEmbedded .default "task" (Entity.decode Timestamp.read?)
      (.object [("task", .array [.object [("_id", .int 1)], .object [], .bool true]),
        ("task_count", .string "many")])).value.map entities =
      (decodeEmbedded .default "task" (Entity.decode Timestamp.read?)
        (.object [("task", .array [.object [("_id", .int 1)], .object [], .bool true])])).value.map
          entities := by
  obtain ⟨hdecode, hembedded⟩ := decode_allOrNothing .default "task" (Entity.decode Timestamp.read?)
  refine ⟨?_, ?_⟩
  · refine (hdecode.failure _ rfl "task" 1 .noId).2 ⟨rfl, ⟨.object [], rfl, rfl⟩, ?_⟩
    intro e he
    cases List.mem_singleton.1 he
    exact ⟨_, rfl⟩
  · exact hembedded.elsewhere _ rfl ["task_count"] (by decide) (by decide)
      (some (.string "many")) _ rfl

end ListView.Page
