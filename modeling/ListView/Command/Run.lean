import ListView.Command.Invocation
import ListView.Filter.Breakdown
import ListView.Settings.Source

/-!
# Running commands

Every command first loads the settings. What it prints, its complaints and the
exit status are its outcome; a filter or response that cannot be used is a
complaint, but no failure.
-/

namespace ListView.Command

structure Result where
  exit : Nat
  output : String
  errors : String
  /-- The log, if it was asked for. -/
  events : List Event
  deriving DecidableEq, Repr

namespace Result

def printed (output : String) : Result := ⟨0, output ++ "\n", "", []⟩

def complaint (exit : Nat) (message : String) : Result :=
  ⟨exit, "", "ERROR: " ++ message ++ "\n", []⟩

end Result

def usage : String :=
  "Usage: scanlist [--config PATH] [--debug] [--format FORMAT] filter|decode|config [OPTIONS]"

def version : String := "0.1.0"

/-! ## Commands -/

def runFilter (settings : Settings) (edit : Edit) (defaults : Bool) (format : OutputFormat) :
    Logged Result := do
  let edit ← if defaults then do
      let f ← settings.resolve (some edit.filter)
      pure { edit with filter := f.print }
    else pure edit
  match ← edit.run with
  | .error e => return .complaint 0 e.message
  | .ok f => return .printed ((← Breakdown.of f).format format)

/-- The line with the filter of the next page, if there is one. -/
def nextLine (settings : Settings) (page : Page Entity) : Logged String := do
  if page.counts.hasNext then
    let f ← (page.filter.mergePresentation (← settings.filter)).nextPage
    return "next: " ++ f.print ++ "\n"
  else return ""

def showPage (settings : Settings) (page : Page Entity) (next : Bool) (format : OutputFormat) :
    Logged Result := do
  let shown := Result.printed (Listing.format page format)
  let more ← if next then nextLine settings page else pure ""
  return { shown with output := shown.output ++ more }

def runDecode {m : Type → Type} [Monad m] [Storage m] (settings : Settings) (file : String)
    (listing : Listing) (next : Bool) (format : OutputFormat) : m (Logged Result) := do
  let decoded ← listing.decodeFile file
  return do
    match ← decoded with
    | .error e => return .complaint 0 e.message
    | .ok page => showPage settings page next format

def runConfig (env : Settings.Environment) (settings : Settings) (verbose : Bool)
    (format : OutputFormat) : Logged Result := do
  let file := Settings.defaultPath env
  if format.isJson then
    return .printed (format.writeJson
      (.object (("config_file", .string file) :: settings.jsonFields)))
  let summary ← settings.summary
  let more := if verbose then
      "\n\nConfig file:        " ++ file ++ "\nEnvironment prefix: SCANLIST_"
    else ""
  return .printed ("Scanlist Configuration\n======================\n\n" ++ summary ++ more)

/-! ## The program -/

section
variable {m : Type → Type} [Monad m] [Storage m]

def runAction (env : Settings.Environment) (settings : Settings) (format : OutputFormat) :
    Action → m (Logged Result)
  | .filter edit defaults => return runFilter settings edit defaults format
  | .decode file listing next => runDecode settings file listing next format
  | .config verbose => return runConfig env settings verbose format

def runRequest (env : Settings.Environment) (r : Request) : m Result := do
  match ← Settings.load env r.config with
  | .error e => return .complaint 1 e.message
  | .ok settings =>
    let done ← runAction env settings r.format r.action
    return { done.value with events := if r.debug then done.events else [] }

/-- The program on its arguments. -/
def run (env : Settings.Environment) (arguments : List String) : m Result :=
  match Invocation.ofArguments arguments with
  | none => return ⟨2, "", usage ++ "\n", []⟩
  | some .help => return .printed usage
  | some (.version program) => return .printed (program ++ " " ++ version)
  | some (.run request) => runRequest env request

end

end ListView.Command
