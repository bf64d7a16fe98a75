import ListView.Filter.Presentation
import ListView.Filter.Value
import ListView.Json.Record

/-!
# Filters in JSON

A filter travels as its printed text, a term as a record of its parts, and
relations, orders and levels as their names.
-/

namespace ListView

namespace Relation

def toJson (r : Relation) : Json := .string r.symbol

def ofJson? : Json → Option Relation := Json.choice? ofSymbol?

end Relation

namespace SortOrder

def toJson (o : SortOrder) : Json := .string o.name

def ofJson? : Json → Option SortOrder :=
  Json.choice? fun name => [ascending, descending].find? (·.name == name)

end SortOrder

namespace Severity

def toJson (level : Severity) : Json := .string level.name

def ofJson? : Json → Option Severity := Json.choice? fun name => all.find? (·.name == name)

end Severity

/-- A number of either kind is read as a double. -/
def FilterValue.ofJson? : Json → Option FilterValue
  | .bool b => some (.bool b)
  | .int n => some (.number (Decimal.signed (n < 0) ((Decimal.nearest n.natAbs 0).getD 0)))
  | .float x => some (.number x)
  | .string s => some (.text s)
  | _ => none

def Term.toJson (t : Term) : Json :=
  .object [("keyword", .string t.keyword), ("relation", t.relation.toJson),
    ("value", .string t.value)]

namespace Filter

def toJson (f : Filter) : Json := .string f.print

def ofJson? (v : Json) : Logged (Option Filter) :=
  match v with
  | .string text => some <$> read text
  | _ => return none

end Filter

end ListView
