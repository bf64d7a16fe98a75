import ListView.Occurrences
import ListView.Element

/-!
# Layout of a list response

Where the parts of a list stand. By default the list of `host` entities has
them under `host`, its paging under `hosts`, its counts under `host_count`, and
its filter under `filters`. Paths start at the root.
-/

namespace ListView

structure Layout where
  root : List String
  plural : Option String
  entities : Option (List String)
  paging : Option (List String)
  counts : Option (List String)
  filter : Option (List String)
  deriving DecidableEq, Repr

namespace Layout

def default : Layout := ⟨[], none, none, none, none, none⟩

def pluralOf (l : Layout) (keyword : String) : String := l.plural.getD (keyword ++ "s")

def countsKey (keyword : String) : String := keyword ++ "_count"

def filtersKey : String := "filters"

def termKey : String := "term"

/-- The part at a path that is set, or else under the usual key. -/
def locate (scope : Json) (path : Option (List String)) (key : String) : Option Json :=
  match path with
  | some keys => Element.path? scope keys
  | none => Element.child? scope key

def entitiesNode (l : Layout) (keyword : String) (scope : Json) : Option Json :=
  locate scope l.entities keyword

def countsNode (l : Layout) (keyword : String) (scope : Json) : Option Json :=
  locate scope l.counts (countsKey keyword)

def pagingNode (l : Layout) (keyword : String) (scope : Json) : Option Json :=
  locate scope l.paging (l.pluralOf keyword)

/-- The paging that the last entity element carries, unless a path for it is set; of what stands
there the last occurrence counts. -/
def embeddedPagingNode (l : Layout) (keyword : String) (scope : Json) : Option Json :=
  match l.paging with
  | some keys => (occurrences (Element.path? scope keys)).getLast?
  | none => (occurrences (l.entitiesNode keyword scope)).getLast?

/-- The filter's element: what stands at a path that is set, or else the `term` of the last of the
filters, which may also be bare text. -/
def filterNode (l : Layout) (scope : Json) : Option Json :=
  match l.filter with
  | some keys => (occurrences (Element.path? scope keys)).getLast?
  | none =>
    (occurrences (Element.child? scope filtersKey)).getLast?.map fun filters =>
      (Element.child? filters termKey).getD filters

/-- The filter's text: that of the last occurrence of its element. -/
def filterText (l : Layout) (scope : Json) : Option String :=
  (occurrences (l.filterNode scope)).getLast?.bind Element.text?

end Layout

end ListView
