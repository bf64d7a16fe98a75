import ListView.Filter.Codec
import ListView.Table

/-!
# Breakdown of a filter

A filter term by term in printed order, with the settings that its presentation
keywords make.
-/

namespace ListView

/-- The texts of a term's parts. -/
structure TermRow where
  keyword : String
  relation : String
  value : String
  deriving DecidableEq, Repr

namespace TermRow

def ofTerm (t : Term) : TermRow := ⟨t.keyword, t.relation.symbol, t.value⟩

def columns : List String := ["keyword", "relation", "value"]

def cells (row : TermRow) : List String := [row.keyword, row.relation, row.value]

def toJson (row : TermRow) : Json := .object (columns.zip (row.cells.map .string))

def ofJson? (v : Json) : Option TermRow := do
  let r ← Json.Record.of? columns v
  return {
    keyword := ← r.required? "keyword" Json.string?
    relation := ← r.required? "relation" Json.string?
    value := ← r.required? "value" Json.string? }

end TermRow

structure Breakdown where
  filter : Filter
  terms : List TermRow
  rows : Option Int
  first : Option Nat
  sortBy : Option String
  sortOrder : SortOrder
  deriving Repr

namespace Breakdown

/-- The terms are those of the printed filter, read again. -/
def of (f : Filter) : Logged Breakdown := do
  let canonical ← Filter.read f.print
  let rows ← f.rows
  let first ← f.first
  return {
    filter := f
    terms := canonical.terms.map TermRow.ofTerm
    rows, first
    sortBy := f.sortBy?
    sortOrder := f.sortOrder }

def table (b : Breakdown) : Table := ⟨TermRow.columns, b.terms.map TermRow.cells⟩

/-- Settings that the filter does not make are left out. -/
def toJson (b : Breakdown) : Json :=
  .object ([("filter", b.filter.toJson), ("terms", .array (b.terms.map TermRow.toJson))] ++
    Json.optionalField "rows" b.rows .int ++ Json.optionalField "first" b.first .nat ++
    Json.optionalField "sort_by" b.sortBy .string ++ [("sort_order", b.sortOrder.toJson)])

def fieldNames : List String := ["filter", "terms", "rows", "first", "sort_by", "sort_order"]

/-- The filter's text in a record of either form. -/
def filterText? : Json → Option String
  | .object fields => (Json.lookup "filter" fields).bind Json.string?
  | .array (text :: _) => text.string?
  | _ => none

/-- The filter text is read before the rest of the record is looked at. -/
def ofJson? (v : Json) : Logged (Option Breakdown) := do
  let some text := filterText? v | return none
  let filter ← Filter.read text
  return do
    let r ← Json.Record.of? fieldNames v
    let terms ← r.required? "terms" (Json.listOf? TermRow.ofJson?)
    let rows ← r.optional? "rows" Json.int64?
    let first ← r.optional? "first" (Json.unsigned? 64)
    let sortBy ← r.optional? "sort_by" Json.string?
    let sortOrder ← r.required? "sort_order" SortOrder.ofJson?
    return { filter, terms, rows, first, sortBy, sortOrder }

def format (b : Breakdown) (format : OutputFormat) : String :=
  match format with
  | .table => b.filter.print ++ "\n" ++ b.table.draw .rounded
  | .markdown => b.filter.print ++ "\n" ++ b.table.draw .markdown
  | .psv => b.table.psv
  | .json | .jsonPretty => format.writeJson b.toJson

end Breakdown

end ListView
