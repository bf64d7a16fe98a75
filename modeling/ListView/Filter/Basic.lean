import ListView.Filter.Term
import ListView.Filter.Token
import ListView.Log

/-!
# Filters

A filter is a list of terms with at most one term per keyword. `sort` and
`sort-reverse` count as one setting: a term for one removes the other. A filter
is printed with `rows` and `first` after all other terms.
-/

namespace ListView

namespace Keyword

def sort : String := "sort"
def sortReverse : String := "sort-reverse"
def rows : String := "rows"
def first : String := "first"
def levels : String := "levels"
def applyOverrides : String := "apply_overrides"
def minQod : String := "min_qod"

/-- The keywords that are printed last, in this order. -/
def trailing : List String := [rows, first]

/-- The keyword that a term for this one removes. -/
def rival? (keyword : String) : Option String :=
  if keyword = sort then some sortReverse
  else if keyword = sortReverse then some sort
  else none

end Keyword

structure Filter where
  terms : List Term
  deriving Repr

namespace Filter

def empty : Filter := ⟨[]⟩

instance : EmptyCollection Filter := ⟨empty⟩

def ofTerm (t : Term) : Filter := ⟨[t]⟩

/-- Puts a term in the place of the one with its keyword, or at the end. -/
def replaceOrAppend (t : Term) : List Term → List Term
  | [] => [t]
  | u :: rest => if u.keyword = t.keyword then t :: rest else u :: replaceOrAppend t rest

/-- The terms that stay when a term for `keyword` comes in. -/
def withoutRival (keyword : String) (terms : List Term) : List Term :=
  match Keyword.rival? keyword with
  | some rival => terms.filter (·.keyword ≠ rival)
  | none => terms

def insert (f : Filter) (t : Term) : Filter :=
  ⟨replaceOrAppend t (withoutRival t.keyword f.terms)⟩

/-! ## Reading and printing -/

def addToken (f : Filter) (token : List Char) : Logged Filter :=
  match Term.parse? token with
  | some t => pure (f.insert t)
  | none => do
    Logged.note (.tokenSkipped (String.ofList token))
    return f

/-- Reads a filter text. Of a repeated keyword the last term counts, at the place of the first. -/
def read (text : String) : Logged Filter := (Token.tokens text.toList).foldlM addToken ∅

def ofString (text : String) : Filter := (read text).value

/-- The term whose keyword is exactly this text. -/
def find? (f : Filter) (keyword : String) : Option Term := f.terms.find? (·.keyword = keyword)

/-- The terms in the order in which they are printed. -/
def printOrder (f : Filter) : List Term :=
  f.terms.filter (!Keyword.trailing.contains ·.keyword) ++ Keyword.trailing.filterMap f.find?

def chars (f : Filter) : List Char := [' '].intercalate (f.printOrder.map Term.chars)

def print (f : Filter) : String := String.ofList f.chars

/-! ## Look-up -/

def term? (f : Filter) (keyword : String) : Option Term := f.find? (Term.normalizeKeyword keyword)

def get? (f : Filter) (keyword : String) : Option String := (f.term? keyword).map (·.value)

def has (f : Filter) (keyword : String) : Bool := (f.term? keyword).isSome

def hasTerm (f : Filter) (t : Term) : Bool := f.terms.contains t

def size (f : Filter) : Nat := f.terms.length

def isEmpty (f : Filter) : Bool := f.terms.isEmpty

/-! ## Edits -/

/-- Sets a term; a blank keyword changes nothing. -/
def setWith (f : Filter) (keyword : String) (relation : Relation) (value : String) : Filter :=
  match Term.make? keyword.toList relation value.toList with
  | some t => f.insert t
  | none => f

def set (f : Filter) (keyword value : String) : Filter := f.setWith keyword .equal value

def delete (f : Filter) (keyword : String) : Filter :=
  let normal := Term.normalizeKeyword keyword
  ⟨f.terms.filter (·.keyword ≠ normal)⟩

/-- This filter with the terms of the other put in one by one. -/
def and (f g : Filter) : Filter := g.terms.foldl insert f

/-- The whole list on one page. -/
def all (f : Filter) : Filter := (f.set Keyword.first "1").set Keyword.rows "-1"

/-! ## Equality

Two filters are equal when they have the same terms, in whatever order. -/

def same (f g : Filter) : Bool := f.size == g.size && f.terms.all g.hasTerm

instance : BEq Filter := ⟨same⟩

/-- The terms by keyword: what a hash of the filter is made from. -/
def sortedTerms (f : Filter) : List Term := f.terms.mergeSort fun a b => a.keyword ≤ b.keyword

end Filter

end ListView
