/-!
# TOML documents

The tables of a document as it is read, line by line. What a table may still
take in depends on how it came about: no key is set twice, no table is opened
twice, and dotted keys reach only into tables that were not opened.
-/

namespace ListView.Toml

inductive Origin where
  /-- Passed through on the way to a table that was opened. -/
  | implied
  | opened
  | dotted
  deriving DecidableEq, Repr

inductive Item where
  | scalar (text : String)
  /-- An array or inline table: complete as it stands. -/
  | closed
  | table (origin : Origin) (entries : List (String × Item))
  /-- An array of tables, of which the last takes entries. -/
  | tables (last : List (String × Item))
  deriving Inhabited

abbrev Entries := List (String × Item)

namespace Entries

def get? (key : String) (entries : Entries) : Option Item := entries.lookup key

/-- Replaces the entry with this key or adds one at the end. -/
def set (key : String) (item : Item) : Entries → Entries
  | [] => [(key, item)]
  | (k, i) :: rest => if k = key then (key, item) :: rest else (k, i) :: set key item rest

/-- Sets a dotted key that is not set yet. The key may reach into tables that no header opened; of
an array of tables it passes through the last, but may not end there. -/
def put : List String → Item → Entries → Option Entries
  | [], _, _ => none
  | [key], item, entries =>
    match entries.get? key with
    | none => some (entries.set key item)
    | some _ => none
  | key :: path, item, entries =>
    match entries.get? key with
    | none => (put path item []).map fun inner => entries.set key (.table .dotted inner)
    | some (.table .opened _) => none
    | some (.table origin inner) =>
      (put path item inner).map fun inner => entries.set key (.table origin inner)
    | some (.tables last) =>
      if path.length ≤ 1 then none
      else (put path item last).map fun last => entries.set key (.tables last)
    | some _ => none

/-- Changes the table at a path of tables, making the ones that are missing. -/
def within (change : Entries → Option Entries) : List String → Entries → Option Entries
  | [], entries => change entries
  | key :: path, entries =>
    match entries.get? key with
    | none => (within change path []).map fun inner => entries.set key (.table .implied inner)
    | some (.table origin inner) =>
      (within change path inner).map fun inner => entries.set key (.table origin inner)
    | some (.tables last) =>
      (within change path last).map fun last => entries.set key (.tables last)
    | some _ => none

/-- Opens the table with this key, which must be new or only implied. -/
def openTable (key : String) (entries : Entries) : Option Entries :=
  match entries.get? key with
  | none => some (entries.set key (.table .opened []))
  | some (.table .implied inner) => some (entries.set key (.table .opened inner))
  | some _ => none

/-- Adds a table to the array of tables with this key. -/
def addTable (key : String) (entries : Entries) : Option Entries :=
  match entries.get? key with
  | none => some (entries.set key (.tables []))
  | some (.tables _) => some (entries.set key (.tables []))
  | some _ => none

end Entries

/-- A document in the making: its entries, and the table that takes the next ones. -/
structure Document where
  entries : Entries
  current : List String

namespace Document

def empty : Document := ⟨[], []⟩

def put (d : Document) (keys : List String) (item : Item) : Option Document :=
  (d.entries.within (Entries.put keys item) d.current).map fun entries => { d with entries }

/-- Opens a table, or adds one to an array of tables, and makes it the current one. -/
def header (d : Document) (path : List String) (repeated : Bool) : Option Document := do
  let key ← path.getLast?
  let change := if repeated then Entries.addTable key else Entries.openTable key
  let entries ← d.entries.within change path.dropLast
  return ⟨entries, path⟩

end Document

end ListView.Toml
