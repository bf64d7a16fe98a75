import ListView.Element
import ListView.Json.Record
import ListView.Log

/-!
# Counts of a page

Where a page begins, how many entities it was asked for and holds, and how many
there are in all and under the filter. A count that is missing or makes no sense
reads as zero, and the log says so.
-/

namespace ListView

structure Counts where
  first : Nat
  /-- The page size that was asked for, `-1` for all rows. -/
  rows : Int
  length : Nat
  all : Nat
  filtered : Nat
  deriving DecidableEq, Repr

namespace Counts

def zero : Counts := ⟨0, 0, 0, 0, 0⟩

/-! ## Reading -/

/-- A number that must not lie below `least`. -/
def atLeast (least : Int) (field : CountField) (node : Option Json) : Logged Int :=
  match node.bind Element.number? with
  | some n =>
    if least ≤ n then pure n
    else do
      Logged.note (.countRejected field n)
      return 0
  | none => do
    Logged.note (.countMissing field)
    return 0

def unsigned (field : CountField) (node : Option Json) : Logged Nat :=
  Int.toNat <$> atLeast 0 field node

/-- The total is the text of the count element, or the element itself if it has no fields. -/
def total? : Json → Option Json
  | .object fields => Json.lookup Element.textKey fields
  | v => some v

/-- `start` and `max` of the paging element. -/
def readPaging : Option Json → Logged (Nat × Int)
  | none => pure (0, 0)
  | some page => do
    let first ← unsigned .first (Element.attribute? page "start")
    let rows ← atLeast (-1) .rows (Element.attribute? page "max")
    return (first, rows)

/-- `page`, the total and `filtered` of the count element. -/
def readTotals : Option Json → Logged (Nat × Nat × Nat)
  | none => pure (0, 0, 0)
  | some count => do
    let length ← unsigned .length (Element.child? count "page")
    let all ← unsigned .all (total? count)
    let filtered ← unsigned .filtered (Element.child? count "filtered")
    return (length, all, filtered)

def read (count page : Option Json) : Logged Counts :=
  if count.isNone && page.isNone then do
    Logged.note .countsUnknown
    return zero
  else do
    let (first, rows) ← readPaging page
    let (length, all, filtered) ← readTotals count
    return { first, rows, length, all, filtered }

/-! ## Navigation -/

/-- The place of the page's last entity, zero for an empty page. -/
def last (c : Counts) : Nat := if c.length = 0 then 0 else c.first + c.length - 1

def isFirst (c : Counts) : Bool := c.first ≤ 1

def isLast (c : Counts) : Bool := c.filtered ≤ c.last

def hasNext (c : Counts) : Bool := !c.isLast

def hasPrevious (c : Counts) : Bool := !c.isFirst

/-- One line such as `11 - 20 of 45 (total: 120)`. -/
def summary (c : Counts) : String :=
  toString (if c.length = 0 then 0 else c.first) ++ " - " ++ toString c.last ++ " of " ++
    toString c.filtered ++ " (total: " ++ toString c.all ++ ")"

/-! ## As a record -/

def fieldNames : List String := ["first", "rows", "length", "all", "filtered"]

def toJson (c : Counts) : Json :=
  .object (fieldNames.zip [.nat c.first, .int c.rows, .nat c.length, .nat c.all, .nat c.filtered])

def ofJson? (v : Json) : Option Counts := do
  let r ← Json.Record.of? fieldNames v
  return {
    first := ← r.required? "first" (Json.unsigned? 64)
    rows := ← r.required? "rows" Json.int64?
    length := ← r.required? "length" (Json.unsigned? 64)
    all := ← r.required? "all" (Json.unsigned? 64)
    filtered := ← r.required? "filtered" (Json.unsigned? 64) }

end Counts

end ListView
