import ListView.Decimal.Reader
import ListView.Filter.Basic
import ListView.Filter.Severity

/-!
# Presentation keywords

The meaning of the keywords that say how a list is shown: page size and start,
sort field and direction, severity levels and overrides. A page size of `-1`
stands for all rows.
-/

namespace ListView

inductive SortOrder where
  | ascending
  | descending
  deriving DecidableEq, Repr

namespace SortOrder

def name : SortOrder → String
  | ascending => "ascending"
  | descending => "descending"

def keyword : SortOrder → String
  | ascending => Keyword.sort
  | descending => Keyword.sortReverse

end SortOrder

/-- The keywords about presentation, in the order in which they are completed. -/
def Keyword.presentation : List String :=
  [applyOverrides, minQod, first, rows, sort, sortReverse, levels]

namespace Filter

/-- The whole number that a keyword's value spells, blanks around it aside. -/
def readWhole (keyword raw : String) : Logged (Option Int) :=
  match Decimal.readInt (Text.trim raw.toList) with
  | some n => pure (some n)
  | none => do
    Logged.note (.notInteger keyword raw)
    return none

def whole (f : Filter) (keyword : String) : Logged (Option Int) :=
  match f.get? keyword with
  | some raw => readWhole keyword raw
  | none => pure none

/-! ## Settings -/

/-- The page size. -/
def rows (f : Filter) : Logged (Option Int) := f.whole Keyword.rows

/-- The place of the page's first entity, counted from 1. -/
def first (f : Filter) : Logged (Option Nat) :=
  (Option.map fun n => (max n 1).toNat) <$> f.whole Keyword.first

def sortBy? (f : Filter) : Option String :=
  match f.get? Keyword.sort with
  | some field => some field
  | none => f.get? Keyword.sortReverse

def sortOrder (f : Filter) : SortOrder :=
  if f.has Keyword.sortReverse && !f.has Keyword.sort then .descending else .ascending

def applyOverrides (f : Filter) : Logged (Option Bool) :=
  match f.get? Keyword.applyOverrides with
  | none => pure none
  | some value =>
    if value = "1" || value = "true" then pure (some true)
    else if value = "0" || value = "false" then pure (some false)
    else do
      Logged.note (.notBoolean Keyword.applyOverrides value)
      return none

def levels (f : Filter) : List Severity := Severity.ofCodes ((f.get? Keyword.levels).getD "")

/-! ## Edits -/

def sort (f : Filter) (field : String) (order : SortOrder) : Filter := f.set order.keyword field

/-- Selects these levels; none of them removes the keyword. -/
def setLevels (f : Filter) (levels : List Severity) : Filter :=
  if levels.isEmpty then f.delete Keyword.levels
  else f.set Keyword.levels (Severity.codes levels)

def withRows (f : Filter) (n : Int) : Filter := f.set Keyword.rows (toString n)

def withFirst (f : Filter) (n : Nat) : Filter := f.set Keyword.first (toString n)

def firstPage (f : Filter) : Filter := f.withFirst 1

/-- Moves the start of the page by `move size start`; without a positive page size nothing moves. -/
def movePage (f : Filter) (move : Nat → Nat → Nat) : Logged Filter := do
  match ← f.rows with
  | some size =>
    if 0 < size then
      let start ← f.first
      return f.withFirst (move size.toNat (start.getD 1))
    else return f
  | none => return f

def nextPage (f : Filter) : Logged Filter := f.movePage fun size start => start + size

/-- The page before, or the first page. -/
def previousPage (f : Filter) : Logged Filter := f.movePage fun size start => max (start - size) 1

/-- Predicates alone, without paging and sorting. -/
def simple (f : Filter) : Filter :=
  (((f.delete Keyword.first).delete Keyword.rows).delete Keyword.sort).delete Keyword.sortReverse

/-- Takes the term for `keyword` from `other` unless `f` has one, or has one for the other direction
of a sort. -/
def complete (other f : Filter) (keyword : String) : Filter :=
  if f.has keyword then f
  else if (keyword = Keyword.sort || keyword = Keyword.sortReverse) && f.sortBy?.isSome then f
  else match other.term? keyword with
    | some t => f.setWith keyword t.relation t.value
    | none => f

/-- Completes the presentation keywords from another filter. -/
def mergePresentation (f other : Filter) : Filter :=
  Keyword.presentation.foldl (complete other) f

end Filter

end ListView
