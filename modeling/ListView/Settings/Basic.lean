import ListView.Filter.Presentation

/-!
# Settings

The filter that a list is opened with when the user gives none, and the page
size where a filter has none. A filter of the user's is completed with the
presentation keywords of the default one.
-/

namespace ListView

structure Settings where
  defaultFilter : String
  rowsPerPage : Int
  deriving DecidableEq, Repr

namespace Settings

def default : Settings := ⟨"first=1 rows=10 sort=name", 10⟩

/-- A page size that the settings may have: all rows, or at least one. -/
def validRows (n : Int) : Bool := n = -1 || 0 < n

/-- Settings by name; what is missing or no page size stays at the default. -/
def ofEntries (entries : List (String × String)) : Settings where
  defaultFilter := (entries.lookup "default_filter").getD default.defaultFilter
  rowsPerPage :=
    (((entries.lookup "rows_per_page").bind fun s => Decimal.readInt (Text.trim s.toList)).filter
      validRows).getD default.rowsPerPage

/-- The default filter, which always has a page size. -/
def filter (s : Settings) : Logged Filter := do
  let f ← Filter.read s.defaultFilter
  return if (← f.rows).isSome then f else f.withRows s.rowsPerPage

/-- The user's filter, completed; the default filter if the user's is missing or blank. -/
def resolve (s : Settings) (text : Option String) : Logged Filter :=
  match text with
  | none => s.filter
  | some t =>
    if Text.allBlank t then s.filter
    else do
      let f ← Filter.read t
      return f.mergePresentation (← s.filter)

def summary (s : Settings) : Logged String := do
  let f ← s.filter
  return "Default Filter:     " ++ f.print ++ "\nRows Per Page:      " ++ toString s.rowsPerPage

/-- The settings as fields of a record. -/
def jsonFields (s : Settings) : List (String × Json) :=
  [("default_filter", .string s.defaultFilter), ("rows_per_page", .int s.rowsPerPage)]

def toJson (s : Settings) : Json := .object s.jsonFields

end Settings

end ListView
