import ListView.Filter.Presentation
import ListView.Json.Record

/-!
# Edits of a filter text

A list view's changes to its filter, applied in a fixed order: deletions, terms
to set, filters to add, paging moves, and the two reductions.
-/

namespace ListView

structure Edit where
  filter : String
  set : List String
  delete : List String
  and : List String
  nextPage : Bool
  previousPage : Bool
  simple : Bool
  all : Bool
  deriving DecidableEq, Repr

namespace Edit

def ofText (filter : String) : Edit := ⟨filter, [], [], [], false, false, false, false⟩

inductive Error where
  | invalidTerm (text : String)
  deriving DecidableEq, Repr

def Error.message : Error → String
  | invalidTerm text => "invalid term to set: " ++ Text.quoted text

/-- Puts in the term that a text spells, unless the filter has it already. -/
def setTerm (f : Filter) (text : String) : Except Error Filter :=
  match Term.ofText? text with
  | some t => .ok (if f.hasTerm t then f else f.setWith t.keyword t.relation t.value)
  | none => .error (.invalidTerm text)

def addFilter (f : Filter) (text : String) : Logged Filter := f.and <$> Filter.read text

def applyIf (flag : Bool) (change : Filter → Logged Filter) (f : Filter) : Logged Filter :=
  if flag then change f else pure f

/-- The edits after the terms to set. -/
def finish (e : Edit) (f : Filter) : Logged Filter := do
  let f ← e.and.foldlM addFilter f
  let f ← applyIf e.nextPage Filter.nextPage f
  let f ← applyIf e.previousPage Filter.previousPage f
  let f := if e.simple then f.simple else f
  return if e.all then f.all else f

/-- The edited filter, or the first text to set that is no term. -/
def run (e : Edit) : Logged (Except Error Filter) := do
  let f ← Filter.read e.filter
  match e.set.foldlM setTerm (e.delete.foldl Filter.delete f) with
  | .ok f => .ok <$> e.finish f
  | .error error => return .error error

/-! ## As a record -/

def fieldNames : List String :=
  ["filter", "set", "delete", "and", "next_page", "previous_page", "simple", "all"]

def toJson (e : Edit) : Json :=
  .object (fieldNames.zip [.string e.filter, .strings e.set, .strings e.delete, .strings e.and,
    .bool e.nextPage, .bool e.previousPage, .bool e.simple, .bool e.all])

/-- Every field may be missing. -/
def ofJson? (v : Json) : Option Edit := do
  let r ← Json.Record.of? fieldNames v
  let texts (name : String) := r.withDefault? name [] (Json.listOf? Json.string?)
  let flag (name : String) := r.withDefault? name false Json.bool?
  return {
    filter := ← r.withDefault? "filter" "" Json.string?
    set := ← texts "set"
    delete := ← texts "delete"
    and := ← texts "and"
    nextPage := ← flag "next_page"
    previousPage := ← flag "previous_page"
    simple := ← flag "simple"
    all := ← flag "all" }

end Edit

end ListView
