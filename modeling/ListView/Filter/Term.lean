import ListView.Filter.Relation
import ListView.Filter.Quotation
import ListView.Text.Blank
import ListView.Text.Case

/-!
# Terms

One predicate of a filter: a keyword, a relation and a value. The value is kept
as text; the keyword is trimmed, in lower case and not empty.
-/

namespace ListView

structure Term where
  keyword : String
  relation : Relation
  value : String
  deriving DecidableEq, Repr

namespace Term

def normalKeyword (cs : List Char) : List Char := Text.lower (Text.trim cs)

def normalizeKeyword (keyword : String) : String := String.ofList (normalKeyword keyword.toList)

/-- The term with the keyword normalized, if anything of it remains. -/
def make? (keyword : List Char) (relation : Relation) (value : List Char) : Option Term :=
  let normal := normalKeyword keyword
  if normal.isEmpty then none else some ⟨String.ofList normal, relation, String.ofList value⟩

/-- Splits at the first place where an operator begins. -/
def splitOperator : List Char → Option (List Char × Relation × List Char)
  | [] => none
  | c :: rest =>
    match Relation.head? (c :: rest) with
    | some (relation, after) => some ([], relation, after)
    | none => (splitOperator rest).map fun (before, found) => (c :: before, found)

theorem eq_append_of_splitOperator {cs before after : List Char} {r : Relation}
    (h : splitOperator cs = some (before, r, after)) : cs = before ++ (r.chars ++ after) := by
  induction cs generalizing before with
  | nil => simp [splitOperator] at h
  | cons c rest ih =>
    simp only [splitOperator] at h
    split at h
    · rename_i hh
      cases h
      simpa using Relation.eq_append_of_head? hh
    · obtain ⟨⟨b, f⟩, hs, heq⟩ := Option.map_eq_some_iff.1 h
      cases heq
      simp [ih hs]

/-- Reads a token such as `severity>=7`. A token without an operator is a flag: its relation is
equality and its value empty. -/
def parse? (token : List Char) : Option Term :=
  let token := Text.trim token
  match splitOperator token with
  | some (keyword, relation, value) =>
    make? keyword relation (Quotation.decode (Text.trim value))
  | none => make? token .equal []

def ofText? (token : String) : Option Term := parse? token.toList

/-- Whether the term carries no value. -/
def isFlag (t : Term) : Bool := t.value.isEmpty

def needsQuotes (value : List Char) : Bool := value.any fun c => Text.isBlank c || c = '"'

def valueChars (value : List Char) : List Char :=
  if needsQuotes value then Quotation.encode value else value

def chars (t : Term) : List Char :=
  t.keyword.toList ++ t.relation.chars ++ valueChars t.value.toList

/-- The term as it stands in a filter text. -/
def print (t : Term) : String := String.ofList t.chars

end Term

end ListView
