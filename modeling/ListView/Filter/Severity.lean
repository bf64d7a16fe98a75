/-!
# Severity levels

Each level has a one-letter code; a filter lists levels as a text of codes.
-/

namespace ListView

inductive Severity where
  | critical
  | high
  | medium
  | low
  | log
  | falsePositive
  deriving DecidableEq, Repr

namespace Severity

def all : List Severity := [critical, high, medium, low, log, falsePositive]

def code : Severity → Char
  | critical => 'c'
  | high => 'h'
  | medium => 'm'
  | low => 'l'
  | log => 'g'
  | falsePositive => 'f'

/-- The level with this code, in either case of an ASCII letter. -/
def ofCode? (c : Char) : Option Severity := all.find? (·.code == c.toLower)

theorem ofCode?_code (level : Severity) : ofCode? level.code = some level := by
  cases level <;> decide

def name : Severity → String
  | critical => "critical"
  | high => "high"
  | medium => "medium"
  | low => "low"
  | log => "log"
  | falsePositive => "falsepositive"

/-- Without the repetitions of a level. -/
def distinct (levels : List Severity) : List Severity :=
  levels.foldl (fun seen level => if seen.contains level then seen else seen ++ [level]) []

/-- The levels that a text of codes selects; other letters are passed over. -/
def ofCodes (codes : String) : List Severity := distinct (codes.toList.filterMap ofCode?)

def codes (levels : List Severity) : String := String.ofList ((distinct levels).map code)

end Severity

end ListView
