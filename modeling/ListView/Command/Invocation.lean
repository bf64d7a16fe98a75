import ListView.Command.Options
import ListView.Filter.Edit
import ListView.OutputFormat
import ListView.Page.Listing

/-!
# Invocations

What a command line asks for: one of three commands with its options, the version
or help. Anything else is a usage error.
-/

namespace ListView.Command

inductive Action where
  | filter (edit : Edit) (defaults : Bool)
  | decode (file : String) (listing : Listing) (next : Bool)
  | config (verbose : Bool)
  deriving DecidableEq, Repr

structure Request where
  config : Option String
  debug : Bool
  format : OutputFormat
  action : Action
  deriving DecidableEq, Repr

inductive Invocation where
  | run (request : Request)
  | version (program : String)
  | help
  deriving DecidableEq, Repr

namespace Invocation

def programName : String := "scanlist"

/-! ## Options -/

def acceptsFormat (s : String) : Bool := (OutputFormat.parse s).toOption.isSome

/-- The options that stand before or after the command's name. -/
def shared : List Switch := [
  { name := "debug", letter := none, arity := .flag },
  { name := "format", letter := some 'F', arity := .once, accepts := acceptsFormat },
  { name := "help", letter := some 'h', arity := .flag },
  { name := "version", letter := some 'V', arity := .flag }]

def topSwitches : List Switch := { name := "config", letter := some 'c', arity := .once } :: shared

def filterSwitches : List Switch := [
  { name := "set", letter := none, arity := .many },
  { name := "delete", letter := none, arity := .many },
  { name := "and", letter := none, arity := .many },
  { name := "next-page", letter := none, arity := .flag },
  { name := "previous-page", letter := none, arity := .flag },
  { name := "simple", letter := none, arity := .flag },
  { name := "all", letter := none, arity := .flag },
  { name := "defaults", letter := some 'd', arity := .flag }] ++ shared

def decodeSwitches : List Switch := [
  { name := "entity", letter := some 'e', arity := .once },
  { name := "plural", letter := some 'p', arity := .once },
  { name := "root", letter := none, arity := .many },
  { name := "embedded-paging", letter := none, arity := .flag },
  { name := "next", letter := none, arity := .flag }] ++ shared

def configSwitches : List Switch :=
  { name := "verbose", letter := some 'v', arity := .flag } :: shared

/-! ## Actions -/

def filterAction (m : Matches) : Option Action :=
  if m.has "next-page" && m.has "previous-page" then none
  else some (.filter {
    filter := m.plain.headD ""
    set := m.values "set"
    delete := m.values "delete"
    and := m.values "and"
    nextPage := m.has "next-page"
    previousPage := m.has "previous-page"
    simple := m.has "simple"
    all := m.has "all" } (m.has "defaults"))

/-- The entity and a file must be given; points separate the keys of a root. -/
def decodeAction (m : Matches) : Option Action := do
  let file ← m.plain.head?
  let entity ← m.value? "entity"
  return .decode file {
    entity
    plural := m.value? "plural"
    root := (m.values "root").flatMap (·.splitToList (· = '.'))
    embeddedPaging := m.has "embedded-paging" } (m.has "next")

def configAction (m : Matches) : Option Action := some (.config (m.has "verbose"))

/-- A command: its options, what it accepts for each plain argument, and what it does. -/
structure Subcommand where
  name : String
  switches : List Switch
  places : List (String → Bool)
  action : Matches → Option Action

def commands : List Subcommand := [
  ⟨"filter", filterSwitches, [fun _ => true], filterAction⟩,
  ⟨"decode", decodeSwitches, [(!·.isEmpty)], decodeAction⟩,
  ⟨"config", configSwitches, [], configAction⟩]

/-- The last format that is given, after the command's name before in front of it. -/
def formatOf (top sub : Matches) : OutputFormat :=
  (((sub.value? "format").or (top.value? "format")).bind
    fun s => (OutputFormat.parse s).toOption).getD .default

def ofStop (program name : String) : Invocation :=
  if name = "version" then .version program else .help

/-- The invocation of a command. What is pending in front of its name counts only when its own
arguments are read, so that they may end the reading before. -/
def ofCommand (top : Matches) (pending : Option (Switch × String)) (c : Subcommand)
    (arguments : List String) : Option Invocation := do
  match ← readArguments c.switches false c.places none .empty arguments with
  | .all sub =>
    let top ← top.settle? pending
    return .run {
      config := top.value? "config"
      debug := top.has "debug" || sub.has "debug"
      format := formatOf top sub
      action := ← c.action sub }
  | .stopped name => return ofStop (programName ++ "-" ++ c.name) name
  | .handOver .. => none

def isCommand (name : String) : Bool := commands.any (·.name == name)

/-- `help` alone or before the name of a command. -/
def ofHelp : List String → Option Invocation
  | [] => some .help
  | [name] => if isCommand name || name = "help" then some .help else none
  | _ => none

/-- The invocation that the arguments spell; `none` is a usage error. -/
def ofArguments (arguments : List String) : Option Invocation := do
  match ← readArguments topSwitches true [] none .empty arguments with
  | .all _ => none
  | .stopped name => return ofStop programName name
  | .handOver top pending name rest =>
    if name = "help" then ofHelp rest
    else ofCommand top pending (← commands.find? (·.name == name)) rest

end Invocation

end ListView.Command
