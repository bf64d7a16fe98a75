import ListView.Proofs.Page.Range

/-!
# What the log says of counts

A count that reads as zero since its number is missing, unreadable or too low
is degraded. The log tells about it if the element that it should stand in is
there, and if no element is there at all. Where one of the two elements is
missing, nothing is said about the counts that it should hold
(`Counts.reported_read`).
-/

namespace ListView

namespace CountField

/-- The counts in the order in which they are read. -/
def values : List CountField := [.first, .rows, .length, .all, .filtered]

theorem mem_values (field : CountField) : field ∈ values := by
  cases field <;> decide

/-- The element that a count stands in. -/
def element (count page : Option Json) : CountField → Option Json
  | first | rows => page
  | length | all | filtered => count

/-- What the element has for a count. -/
def source? : CountField → Json → Option Json
  | first, page => Element.attribute? page "start"
  | rows, page => Element.attribute? page "max"
  | length, count => Element.child? count "page"
  | all, count => Counts.total? count
  | filtered, count => Element.child? count "filtered"

/-- The least number that is taken for a count. -/
def least : CountField → Int
  | rows => -1
  | _ => 0

end CountField

namespace Event

/-- A debug event with the name of the count in its message. -/
def Names (field : CountField) (e : Event) : Prop :=
  e.level = .debug ∧ field.name.toList <:+: e.message.toList

theorem infix_between (before name after : String) :
    name.toList <:+: (before ++ name ++ after).toList := by
  rw [String.toList_append, String.toList_append]
  exact ⟨_, _, rfl⟩

theorem message_rejected (field : CountField) (n : Int) :
    (countRejected field n).message =
      (if field = .rows then "invalid " else "negative ") ++ field.name ++
        (" count " ++ toString n ++ " treated as 0") := by
  rw [← String.append_assoc, ← String.append_assoc]
  cases field with
  | rows =>
    have hmessage : (countRejected .rows n).message =
      "invalid rows count " ++ toString n ++ " treated as 0" := rfl
    have htext : "invalid rows count " = "invalid " ++ "rows" ++ " count " := by decide
    rw [hmessage, htext]
    rfl
  | first | length | all | filtered => rfl

/-- What the log says of one count names it. -/
theorem names_of_covers {field : CountField} {e : Event} (h : e.covers field = true)
    (hne : e ≠ .countsUnknown) : e.Names field := by
  cases e with
  | countsUnknown => exact absurd rfl hne
  | countMissing f =>
    cases eq_of_beq h
    exact ⟨rfl, infix_between _ _ _⟩
  | countRejected f n =>
    cases eq_of_beq h
    refine ⟨rfl, ?_⟩
    rw [message_rejected]
    exact infix_between _ _ _
  | tokenSkipped _ | notInteger _ _ | notBoolean _ _ | noSubtree _ | noFilterText | decoded _ _ _ =>
    cases h

theorem level_eq_warn_iff (e : Event) : e.level = .warn ↔ e = .countsUnknown := by
  cases e <;> simp [level]

end Event

namespace Counts

def get (c : Counts) : CountField → Int
  | .first => c.first
  | .rows => c.rows
  | .length => c.length
  | .all => c.all
  | .filtered => c.filtered

/-! ## One count -/

/-- Reads one count of its element. -/
def readField (field : CountField) (node : Json) : Logged Int :=
  atLeast field.least field (field.source? node)

/-- What a response has for a count. -/
def given? (count page : Option Json) (field : CountField) : Option Json :=
  (field.element count page).bind field.source?

/-- A count without a number that could be taken for it. -/
inductive Degraded (count page : Option Json) (field : CountField) : Prop where
  | missing : given? count page field = none → Degraded count page field
  | unreadable {v : Json} : given? count page field = some v → Element.number? v = none →
      Degraded count page field
  | rejected {v : Json} {n : Int} : given? count page field = some v →
      Element.number? v = some n → n < field.least → Degraded count page field

theorem degraded_iff {count page : Option Json} {field : CountField} :
    Degraded count page field ↔
      ∀ n, (given? count page field).bind Element.number? = some n → n < field.least := by
  constructor
  · rintro (hgiven | ⟨hgiven, hnumber⟩ | ⟨hgiven, hnumber, hlow⟩)
    · simp [hgiven]
    · simp [hgiven, hnumber]
    · intro n hn
      rw [hgiven, Option.bind_some, hnumber] at hn
      cases hn
      exact hlow
  · intro h
    cases hgiven : given? count page field with
    | none => exact .missing hgiven
    | some v =>
      cases hnumber : Element.number? v with
      | none => exact .unreadable hgiven hnumber
      | some n => exact .rejected hgiven hnumber (h n (by rw [hgiven, Option.bind_some, hnumber]))

/-- A count is taken and nothing is said, or it reads as zero and one event tells about it. -/
theorem readField_cases (field : CountField) (node : Json) :
    (∃ n, (field.source? node).bind Element.number? = some n ∧ field.least ≤ n ∧
      readField field node = pure n) ∨
    (∀ n, (field.source? node).bind Element.number? = some n → n < field.least) ∧
      ∃ e : Event, e ≠ .countsUnknown ∧ (∀ f, e.covers f = true ↔ f = field) ∧
        readField field node = ⟨0, [e]⟩ := by
  have hcovers (f : CountField) : (field == f) = true ↔ f = field := by rw [beq_iff_eq, eq_comm]
  unfold readField atLeast
  cases (field.source? node).bind Element.number? with
  | none => exact .inr ⟨nofun, .countMissing field, nofun, hcovers, rfl⟩
  | some n =>
    by_cases hn : field.least ≤ n
    · exact .inl ⟨n, rfl, hn, if_pos hn⟩
    · refine .inr ⟨?_, .countRejected field n, nofun, hcovers, if_neg hn⟩
      rintro _ ⟨⟩
      exact Int.not_le.1 hn

/-- What the log says of one count, nothing unless its element is there. -/
def report (count page : Option Json) (field : CountField) : List Event :=
  ((field.element count page).map fun node => (readField field node).events).getD []

section Report

variable {count page : Option Json} {field : CountField}

theorem degraded_iff_of_element {node : Json} (h : field.element count page = some node) :
    Degraded count page field ↔
      ∀ n, (field.source? node).bind Element.number? = some n → n < field.least := by
  rw [degraded_iff, given?, h, Option.bind_some]

theorem degraded_of_element_eq_none (h : field.element count page = none) :
    Degraded count page field := .missing (by rw [given?, h, Option.bind_none])

theorem report_of_element_eq_none (h : field.element count page = none) :
    report count page field = [] := by
  rw [report, h]
  rfl

/-- One event tells about a degraded count whose element is there. -/
theorem report_of_degraded {node : Json} (hnode : field.element count page = some node)
    (h : Degraded count page field) :
    ∃ e : Event, e ≠ .countsUnknown ∧ (∀ f, e.covers f = true ↔ f = field) ∧
      report count page field = [e] := by
  rw [degraded_iff_of_element hnode] at h
  rcases readField_cases field node with ⟨n, hn, hle, -⟩ | ⟨-, e, hne, hcovers, hread⟩
  · exact absurd hle (Int.not_le.2 (h n hn))
  · refine ⟨e, hne, hcovers, ?_⟩
    rw [report, hnode, Option.map_some, hread]
    rfl

theorem report_of_not_degraded (h : ¬ Degraded count page field) :
    report count page field = [] := by
  cases hnode : field.element count page with
  | none => exact report_of_element_eq_none hnode
  | some node =>
    rw [degraded_iff_of_element hnode] at h
    rcases readField_cases field node with ⟨n, -, -, hread⟩ | ⟨hlow, -⟩
    · rw [report, hnode, Option.map_some, hread]
      rfl
    · exact absurd hlow h

theorem of_mem_report {e : Event} (h : e ∈ report count page field) :
    e ≠ .countsUnknown ∧ (∀ f, e.covers f = true ↔ f = field) ∧ Degraded count page field := by
  by_cases hdegraded : Degraded count page field
  · cases hnode : field.element count page with
    | none =>
      rw [report_of_element_eq_none hnode] at h
      cases h
    | some node =>
      obtain ⟨e', hne, hcovers, hreport⟩ := report_of_degraded hnode hdegraded
      rw [hreport, List.mem_singleton] at h
      cases h
      exact ⟨hne, hcovers, hdegraded⟩
  · rw [report_of_not_degraded hdegraded] at h
    cases h

end Report

/-! ## All counts -/

section Read

variable (count page : Option Json)

theorem value_read_get (field : CountField) :
    (read count page).value.get field =
      ((field.element count page).map fun node => (readField field node).value).getD 0 := by
  rw [Page.value_read]
  cases field with
  | first => cases page <;> [rfl; exact value_unsigned_eq _ _]
  | rows => cases page <;> rfl
  | length => cases count <;> [rfl; exact value_unsigned_eq _ _]
  | all => cases count <;> [rfl; exact value_unsigned_eq _ _]
  | filtered => cases count <;> [rfl; exact value_unsigned_eq _ _]

theorem events_readPaging :
    (readPaging page).events = report count page .first ++ report count page .rows := by
  cases page with
  | none => rfl
  | some page =>
    simp only [readPaging, unsigned, Logged.events_bind, Logged.events_map, Logged.events_pure,
      List.append_nil]
    rfl

theorem events_readTotals :
    (readTotals count).events =
      report count page .length ++ (report count page .all ++ report count page .filtered) := by
  cases count with
  | none => rfl
  | some count =>
    simp only [readTotals, unsigned, Logged.events_bind, Logged.events_map, Logged.events_pure,
      List.append_nil]
    rfl

end Read

variable {count page : Option Json}

/-- The log is made of what is said of each count. -/
theorem events_read (h : ¬ (count = none ∧ page = none)) :
    (read count page).events = CountField.values.flatMap (report count page) := by
  have hthere : (count.isNone && page.isNone) = false := by
    rw [Bool.eq_false_iff, ne_eq, Bool.and_eq_true, Option.isNone_iff_eq_none,
      Option.isNone_iff_eq_none]
    exact h
  have hread :
      (read count page).events = (readPaging page).events ++ (readTotals count).events := by
    rw [read, hthere]
    simp only [Bool.false_eq_true, if_false, Logged.events_bind, Logged.events_pure,
      List.append_nil]
  rw [hread, events_readPaging count, events_readTotals count page]
  simp only [CountField.values, List.flatMap_cons, List.flatMap_nil, List.append_nil,
    List.append_assoc]

theorem mem_events_read (h : ¬ (count = none ∧ page = none)) {e : Event} :
    e ∈ (read count page).events ↔ ∃ field, e ∈ report count page field := by
  rw [events_read h, List.mem_flatMap]
  exact exists_congr fun field => and_iff_right field.mem_values

theorem get_of_degraded {field : CountField} (h : Degraded count page field) :
    (read count page).value.get field = 0 := by
  rw [value_read_get]
  cases hnode : field.element count page with
  | none => rfl
  | some node =>
    rw [degraded_iff_of_element hnode] at h
    rcases readField_cases field node with ⟨n, hn, hle, -⟩ | ⟨-, e, -, -, hread⟩
    · exact absurd hle (Int.not_le.2 (h n hn))
    · rw [Option.map_some, hread]
      rfl

section There

variable (h : ¬ (count = none ∧ page = none)) {e : Event} (he : e ∈ (read count page).events)

include h he

theorem ne_countsUnknown_of_mem : e ≠ .countsUnknown := by
  obtain ⟨field, hfield⟩ := (mem_events_read h).1 he
  exact (of_mem_report hfield).1

theorem mem_report_of_covers {field : CountField} (hcovers : e.covers field = true) :
    e ∈ report count page field := by
  obtain ⟨f, hf⟩ := (mem_events_read h).1 he
  cases ((of_mem_report hf).2.1 field).1 hcovers
  exact hf

end There

theorem exists_covers_iff (h : ¬ (count = none ∧ page = none)) {field : CountField}
    (hdegraded : Degraded count page field) :
    (∃ e ∈ (read count page).events, e.covers field = true) ↔
      (field.element count page).isSome = true := by
  constructor
  · rintro ⟨e, he, hcovers⟩
    refine Option.isSome_iff_ne_none.2 fun hnode => ?_
    have hreport := mem_report_of_covers h he hcovers
    rw [report_of_element_eq_none hnode] at hreport
    cases hreport
  · intro hnode
    obtain ⟨node, hnode⟩ := Option.isSome_iff_exists.1 hnode
    obtain ⟨e, -, hcovers, hreport⟩ := report_of_degraded hnode hdegraded
    refine ⟨e, (mem_events_read h).2 ⟨field, ?_⟩, (hcovers field).2 rfl⟩
    rw [hreport]
    exact List.mem_singleton.2 rfl

/-- What the log of reading counts says of them. -/
structure Reported (count page : Option Json) : Prop where
  zero : ∀ field, Degraded count page field → (read count page).value.get field = 0
  /-- A degraded count is told about unless its element is missing and the other is not. -/
  told : ∀ field, Degraded count page field →
    ((∃ e ∈ (read count page).events, e.covers field = true) ↔
      (field.element count page).isSome = true ∨ count = none ∧ page = none)
  /-- Only degraded counts are told about. -/
  degraded : ∀ field, ∀ e ∈ (read count page).events, e.covers field = true →
    Degraded count page field
  named : ¬ (count = none ∧ page = none) → ∀ field, ∀ e ∈ (read count page).events,
    e.covers field = true → e.Names field
  unknown : count = none → page = none → (read count page).events = [.countsUnknown] ∧
    Event.countsUnknown.line = "WARN cannot determine correct counts: " ++
      "response has neither count nor paging information"
  warned : (∃ e ∈ (read count page).events, e.level = .warn) ↔ count = none ∧ page = none

theorem reported_unknown : Reported none none where
  zero _ h := get_of_degraded h
  told _ _ := ⟨fun _ => .inr ⟨rfl, rfl⟩, fun _ => ⟨_, List.mem_singleton.2 rfl, rfl⟩⟩
  degraded field _ _ _ := degraded_of_element_eq_none (by cases field <;> rfl)
  named h := absurd ⟨rfl, rfl⟩ h
  unknown _ _ := ⟨rfl, rfl⟩
  warned := ⟨fun _ => ⟨rfl, rfl⟩, fun _ => ⟨_, List.mem_singleton.2 rfl, rfl⟩⟩

theorem reported_of_there (h : ¬ (count = none ∧ page = none)) : Reported count page where
  zero _ hdegraded := get_of_degraded hdegraded
  told _ hdegraded := (exists_covers_iff h hdegraded).trans (or_iff_left h).symm
  degraded _ _ he hcovers := (of_mem_report (mem_report_of_covers h he hcovers)).2.2
  named _ _ _ he hcovers := Event.names_of_covers hcovers (ne_countsUnknown_of_mem h he)
  unknown hcount hpage := absurd ⟨hcount, hpage⟩ h
  warned := by
    constructor
    · rintro ⟨e, he, hwarn⟩
      exact absurd ((Event.level_eq_warn_iff e).1 hwarn) (ne_countsUnknown_of_mem h he)
    · exact fun hboth => absurd hboth h

/-- The log tells about a degraded count exactly if its element is there or no element is, and it
warns exactly if no element is there. -/
theorem reported_read (count page : Option Json) : Reported count page := by
  by_cases h : count = none ∧ page = none
  · obtain ⟨rfl, rfl⟩ := h
    exact reported_unknown
  · exact reported_of_there h

/-- The counts of a page of two entities in a list of fifty. -/
def pageOfTwo : Json :=
  .object [("__text", .int 50), ("filtered", .int 2), ("page", .int 2)]

theorem reported_read_rejected :
    (∃ e ∈ (read (some pageOfTwo) (some (.object [("_max", .int (-5))]))).events,
      e.covers .rows = true ∧ e.Names .rows) ∧
    (read (some pageOfTwo) (some (.object [("_max", .int (-5))]))).value.rows = 0 := by
  have hdegraded : Degraded (some pageOfTwo) (some (.object [("_max", .int (-5))])) .rows :=
    .rejected rfl rfl (by decide)
  have hreported := reported_read (some pageOfTwo) (some (.object [("_max", .int (-5))]))
  obtain ⟨e, he, hcovers⟩ := (hreported.told .rows hdegraded).2 (.inl rfl)
  exact ⟨⟨e, he, hcovers, hreported.named nofun .rows e he hcovers⟩, hreported.zero .rows hdegraded⟩

/-- Without a paging element the start and the size of the page are zero, and nothing says so. -/
theorem reported_read_silent :
    Degraded (some pageOfTwo) none .first ∧ Degraded (some pageOfTwo) none .rows ∧
      (read (some pageOfTwo) none).value = ⟨0, 0, 2, 50, 2⟩ ∧
      ¬ ∃ e ∈ (read (some pageOfTwo) none).events,
          e.covers .first = true ∨ e.covers .rows = true := by
  refine ⟨.missing rfl, .missing rfl, by decide, ?_⟩
  have hevents : (read (some pageOfTwo) none).events = [] := rfl
  rw [hevents]
  simp

end Counts

end ListView
