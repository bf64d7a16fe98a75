import ListView.Json.Record
import ListView.Json.Writer
import ListView.Text.Case

/-!
# Output formats

How results are shown: as a table, as JSON, or as lines of values between pipes.
-/

namespace ListView

inductive OutputFormat where
  | table
  | markdown
  | json
  | jsonPretty
  | psv
  deriving DecidableEq, Repr

namespace OutputFormat

def default : OutputFormat := table

def all : List OutputFormat := [table, markdown, json, jsonPretty, psv]

def name : OutputFormat → String
  | table => "table"
  | markdown => "markdown"
  | json => "json"
  | jsonPretty => "json-pretty"
  | psv => "psv"

def names : List String := all.map name

/-- Names that a user may give besides the proper ones. -/
def aliases : List (String × OutputFormat) :=
  [("pretty", table), ("md", markdown), ("jsonpretty", jsonPretty), ("pipe", psv)]

def ofName? (s : String) : Option OutputFormat := all.find? (·.name == s)

structure Unknown where
  given : String

def Unknown.message (e : Unknown) : String :=
  "Unknown output format '" ++ e.given ++ "'. Valid formats: " ++ ", ".intercalate names

/-- The format that a user's text names, in any case. -/
def parse (s : String) : Except Unknown OutputFormat :=
  let lower := Text.lowerText s
  match ofName? lower with
  | some f => .ok f
  | none => match aliases.lookup lower with
    | some f => .ok f
    | none => .error ⟨s⟩

def isJson (f : OutputFormat) : Bool := f = json || f = jsonPretty

def isTable (f : OutputFormat) : Bool := f = table || f = markdown

/-- JSON text in this format's form; only `json` is compact. -/
def writeJson (f : OutputFormat) (v : Json) : String := if f = json then v.compact else v.pretty

def toJson (f : OutputFormat) : Json := .string f.name

def ofJson? : Json → Option OutputFormat := Json.choice? ofName?

end OutputFormat

end ListView
