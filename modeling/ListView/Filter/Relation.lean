import ListView.Json.Basic

/-!
# Relations

The operators between a keyword and its value.
-/

namespace ListView

inductive Relation where
  | equal
  | approx
  | less
  | greater
  | lessOrEqual
  | greaterOrEqual
  deriving DecidableEq, Repr

namespace Relation

def all : List Relation := [equal, approx, less, greater, lessOrEqual, greaterOrEqual]

def chars : Relation → List Char
  | equal => ['=']
  | approx => ['~']
  | less => ['<']
  | greater => ['>']
  | lessOrEqual => ['<', '=']
  | greaterOrEqual => ['>', '=']

def symbol (r : Relation) : String := String.ofList r.chars

def ofSymbol? (s : String) : Option Relation := all.find? (·.symbol == s)

/-- The characters that begin an operator. -/
def isOperatorChar (c : Char) : Bool := c = '=' || c = '~' || c = '<' || c = '>'

/-- The operator at the head of a text and what follows it; two characters win over one. -/
def head? : List Char → Option (Relation × List Char)
  | '<' :: '=' :: rest => some (lessOrEqual, rest)
  | '>' :: '=' :: rest => some (greaterOrEqual, rest)
  | '~' :: rest => some (approx, rest)
  | '=' :: rest => some (equal, rest)
  | '<' :: rest => some (less, rest)
  | '>' :: rest => some (greater, rest)
  | _ => none

theorem eq_append_of_head? {cs rest : List Char} {r : Relation} (h : head? cs = some (r, rest)) :
    cs = r.chars ++ rest := by
  unfold head? at h
  split at h <;> simp_all [chars] <;> grind [chars]

end Relation

end ListView
