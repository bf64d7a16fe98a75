import ListView.Page.Layout
import ListView.Proofs.Element.Change

/-!
# Parts of a layout

Where a part is found: at its path or, without one, under its usual key
(`Layout.locate_eq`). In a usual layout each part has a key, and the filter is
what the last of the filters says (`Layout.filterText_eq`).
-/

namespace ListView.Layout

open Element

variable {l : Layout} {keyword : String} {scope : Json}

theorem locate_eq (scope : Json) (path : Option (List String)) (key : String) :
    locate scope path key = path? scope (path.getD [key]) := by
  cases path with
  | some keys => rfl
  | none => exact (path?_singleton scope key).symm

/-- The path of the entities in a response. -/
def entitiesPath (l : Layout) (keyword : String) : List String :=
  l.root ++ l.entities.getD [keyword]

/-! ## The usual layout -/

/-- No part has a path of its own. -/
structure Usual (l : Layout) : Prop where
  entities : l.entities = none
  paging : l.paging = none
  counts : l.counts = none
  filter : l.filter = none

/-- The keys under which the parts stand if they have no path. -/
def usualKeys (l : Layout) (keyword : String) : List String :=
  [keyword, l.pluralOf keyword, countsKey keyword, filtersKey]

section Usual

variable (hl : l.Usual)

include hl

theorem Usual.entitiesNode_eq : l.entitiesNode keyword scope = child? scope keyword := by
  simp only [entitiesNode, locate, hl.entities]

theorem Usual.pagingNode_eq : l.pagingNode keyword scope = child? scope (l.pluralOf keyword) := by
  simp only [pagingNode, locate, hl.paging]

theorem Usual.countsNode_eq : l.countsNode keyword scope = child? scope (countsKey keyword) := by
  simp only [countsNode, locate, hl.counts]

end Usual

/-! ## The text of the filter -/

/-- The text of the last occurrence of an element. -/
def lastText (node : Option Json) : Option String := (occurrences node).getLast?.bind text?

/-- What one of the filters says: the text of its terms or, without them, its own. -/
def textOfFilters (filters : Json) : Option String :=
  lastText (some ((child? filters termKey).getD filters))

theorem filterText_eq (hl : l.filter = none) (scope : Json) :
    l.filterText scope = (occurrences (child? scope filtersKey)).getLast?.bind textOfFilters := by
  simp only [filterText, filterNode, hl]
  cases (occurrences (child? scope filtersKey)).getLast? with
  | none => rfl
  | some filters => rfl

/-! ## Without a list -/

section NoList

variable (hscope : scope.isObject = false)

include hscope

theorem filterText_eq_none (hl : l.filter = none) : l.filterText scope = none := by
  rw [filterText_eq hl, child?_of_not_object hscope]
  rfl

variable (hl : l.Usual)

include hl

theorem Usual.entitiesNode_eq_none : l.entitiesNode keyword scope = none := by
  rw [hl.entitiesNode_eq, child?_of_not_object hscope]

theorem Usual.pagingNode_eq_none : l.pagingNode keyword scope = none := by
  rw [hl.pagingNode_eq, child?_of_not_object hscope]

theorem Usual.countsNode_eq_none : l.countsNode keyword scope = none := by
  rw [hl.countsNode_eq, child?_of_not_object hscope]

theorem Usual.embeddedPagingNode_eq_none : l.embeddedPagingNode keyword scope = none := by
  rw [embeddedPagingNode, hl.paging, hl.entitiesNode_eq_none hscope]
  rfl

end NoList

end ListView.Layout
