import ListView.Page.Decode
import ListView.Proofs.Element.Spelling

/-!
# Decoding a page

What a response decodes to, part by part: the entities if each element decodes
(`value_decode`), and the counts where the response gives them as numbers of 64
bits (`value_readPaging`, `value_readTotals`).
-/

namespace ListView.Page

variable {ε α : Type}

/-! ## Entities -/

theorem decodeFrom_of_ok {decoder : Json → Except ε α} {d : Json → α} {elements : List Json}
    (h : ∀ e ∈ elements, decoder e = .ok (d e)) (keyword : String) (index : Nat) :
    decodeFrom decoder keyword index elements = .ok (elements.map d) := by
  induction elements generalizing index with
  | nil => rfl
  | cons e rest ih =>
    rw [decodeFrom, h e List.mem_cons_self, ih fun u hu => h u (List.mem_cons_of_mem _ hu)]
    rfl

/-- Decoding an object: only its entities can fail. -/
theorem value_decodeBy {paging : Json → Option Json} {l : Layout} {keyword : String}
    {decoder : Json → Except ε α} {response : Json} (h : response.isObject = true) :
    (decodeBy paging l keyword decoder response).value =
      (decodeFrom decoder keyword 0
        (occurrences (l.entitiesNode keyword (scope l response).value))).map fun entities => {
          entities
          filter := (readFilter l (scope l response).value).value
          counts := (Counts.read (l.countsNode keyword (scope l response).value)
            (paging (scope l response).value)).value } := by
  rw [decodeBy, if_pos h, Logged.value_bind, decodeScope]
  cases decodeFrom decoder keyword 0
      (occurrences (l.entitiesNode keyword (scope l response).value)) with
  | error e => rfl
  | ok entities => rfl

theorem value_decodeBy_of_not_object {paging : Json → Option Json} {l : Layout} {keyword : String}
    {decoder : Json → Except ε α} {response : Json} (h : response.isObject = false) :
    (decodeBy paging l keyword decoder response).value = .error .notAnObject := by
  rw [decodeBy, h]
  rfl

/-- The filter and the counts of a page do not depend on its entities. -/
theorem parts_of_value_decodeBy {paging : Json → Option Json} {l : Layout} {keyword : String}
    {decoder : Json → Except ε α} {r : Json} {p : Page α}
    (h : (decodeBy paging l keyword decoder r).value = .ok p) :
    p.filter = (readFilter l (scope l r).value).value ∧
      p.counts = (Counts.read (l.countsNode keyword (scope l r).value)
        (paging (scope l r).value)).value := by
  cases hobject : r.isObject with
  | false =>
    rw [value_decodeBy_of_not_object hobject] at h
    cases h
  | true =>
    rw [value_decodeBy hobject] at h
    cases hentities : decodeFrom decoder keyword 0
        (occurrences (l.entitiesNode keyword (scope l r).value)) with
    | error e =>
      rw [hentities] at h
      cases h
    | ok entities =>
      rw [hentities] at h
      cases h
      exact ⟨rfl, rfl⟩

theorem value_decode {l : Layout} (hroot : l.root = []) (keyword : String)
    {decoder : Json → Except ε α} {fields : List (String × Json)} {entities : List α}
    (h : decodeFrom decoder keyword 0
      (occurrences (l.entitiesNode keyword (.object fields))) = .ok entities) :
    (decode l keyword decoder (.object fields)).value = .ok {
      entities
      filter := (readFilter l (.object fields)).value
      counts := (Counts.read (l.countsNode keyword (.object fields))
        (l.pagingNode keyword (.object fields))).value } := by
  have hscope : (scope l (.object fields)).value = .object fields := by
    rw [scope, hroot]
    rfl
  rw [decode, value_decodeBy rfl, hscope, h]
  rfl

/-! ## Counts -/

theorem value_atLeast {least n : Int} {node : Json} (h : Element.number? node = some n)
    (hn : least ≤ n) (field : CountField) : (Counts.atLeast least field (some node)).value = n := by
  rw [Counts.atLeast, Option.bind_some, h]
  simp only [if_pos hn, Logged.value_pure]

theorem value_unsigned {n : Nat} (hn : (n : Int) ≤ Decimal.maxInt) (field : CountField) :
    (Counts.unsigned field (some (.nat n))).value = n := by
  have hpos := Int.natCast_nonneg n
  have hread := value_atLeast (Element.number?_int (Int.le_trans (by decide) hpos) hn) hpos field
  rw [Counts.unsigned, Logged.value_map, Json.nat, hread]
  rfl

theorem attribute?_of_child? {node v : Json} {name : String}
    (h : Element.child? node ("_" ++ name) = some v) : Element.attribute? node name = some v := by
  rw [Element.attribute?, h]

theorem value_readPaging {page : Json} {start : Nat} {size : Int}
    (hstart : Element.child? page "_start" = some (.nat start))
    (hmax : Element.child? page "_max" = some (.int size))
    (hfirst : (start : Int) ≤ Decimal.maxInt) (hpos : 1 ≤ size) (hsize : size ≤ Decimal.maxInt) :
    (Counts.readPaging (some page)).value = (start, size) := by
  have hstart' : Element.attribute? page "start" = some (.nat start) := attribute?_of_child? hstart
  have hmax' : Element.attribute? page "max" = some (.int size) := attribute?_of_child? hmax
  rw [Counts.readPaging, Logged.value_bind, Logged.value_bind, Logged.value_pure, hstart', hmax',
    value_unsigned hfirst, value_atLeast (Element.number?_int (Int.le_trans (by decide) hpos) hsize)
      (Int.le_trans (by decide) hpos)]

theorem value_readTotals {count : Json} {sent matching : Nat}
    (hpage : Element.child? count "page" = some (.nat sent))
    (hfiltered : Element.child? count "filtered" = some (.nat matching))
    (hsent : (sent : Int) ≤ Decimal.maxInt) (hmatching : (matching : Int) ≤ Decimal.maxInt) :
    ∃ all, (Counts.readTotals (some count)).value = (sent, all, matching) := by
  refine ⟨(Counts.unsigned .all (Counts.total? count)).value, ?_⟩
  rw [Counts.readTotals, Logged.value_bind, Logged.value_bind, Logged.value_bind,
    Logged.value_pure, hpage, hfiltered, value_unsigned hsent, value_unsigned hmatching]

/-! ## Responses that say the same -/

/-- Scopes that say the same in every part. The entities may be grouped in another form. -/
structure SameParts (l : Layout) (keyword : String) (s t : Json) : Prop where
  entities : occurrences (l.entitiesNode keyword t) = occurrences (l.entitiesNode keyword s)
  paging : l.pagingNode keyword t = l.pagingNode keyword s
  counts : l.countsNode keyword t = l.countsNode keyword s
  filter : l.filterText t = l.filterText s

theorem SameParts.refl {l : Layout} {keyword : String} (s : Json) : SameParts l keyword s s :=
  ⟨rfl, rfl, rfl, rfl⟩

section SameParts

variable {l : Layout} {keyword : String} {s t : Json} (h : SameParts l keyword s t)

include h

theorem SameParts.embeddedPagingNode_eq :
    l.embeddedPagingNode keyword t = l.embeddedPagingNode keyword s := by
  have hpaging := h.paging
  unfold Layout.pagingNode Layout.locate at hpaging
  unfold Layout.embeddedPagingNode
  cases hpath : l.paging with
  | some keys =>
    rw [hpath] at hpaging
    exact congrArg (fun node => (occurrences node).getLast?) hpaging
  | none => exact congrArg List.getLast? h.entities

theorem SameParts.decodeScope_eq {paging : Json → Option Json} (hpaging : paging t = paging s)
    (decoder : Json → Except ε α) :
    decodeScope paging l keyword decoder t = decodeScope paging l keyword decoder s := by
  rw [decodeScope, decodeScope, h.entities, readFilter, readFilter, h.filter, h.counts, hpaging]

end SameParts

section

variable {l : Layout} {keyword : String} {r r' : Json} (hobject : r'.isObject = r.isObject)
  (hroot : Option.Rel (SameParts l keyword) (Element.path? r l.root) (Element.path? r' l.root))

include hobject hroot

theorem decodeBy_eq_of_sameParts {paging : Json → Option Json}
    (hpaging : ∀ s t, SameParts l keyword s t → paging t = paging s)
    (decoder : Json → Except ε α) :
    decodeBy paging l keyword decoder r' = decodeBy paging l keyword decoder r := by
  unfold decodeBy scope
  rw [hobject]
  generalize Element.path? r l.root = a at hroot
  generalize Element.path? r' l.root = b at hroot
  cases hroot with
  | none => rfl
  | some h => simp only [pure_bind, h.decodeScope_eq (hpaging _ _ h)]

theorem decode_eq_of_sameParts (decoder : Json → Except ε α) :
    decode l keyword decoder r' = decode l keyword decoder r ∧
      decodeEmbedded l keyword decoder r' = decodeEmbedded l keyword decoder r :=
  ⟨decodeBy_eq_of_sameParts hobject hroot (fun _ _ h => h.paging) decoder,
    decodeBy_eq_of_sameParts hobject hroot (fun _ _ h => h.embeddedPagingNode_eq) decoder⟩

end

end ListView.Page
