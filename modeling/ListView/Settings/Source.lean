import ListView.Settings.Basic
import ListView.Storage
import ListView.Text.Utf8
import ListView.Toml.Reader

/-!
# Where settings come from

A TOML file, and over it the environment's variables that begin with
`SCANLIST_`, in any case. A file that is missing is made from a template in
which everything is commented out.
-/

namespace ListView.Settings

/-- The environment as far as settings depend on it. -/
structure Environment where
  home : String
  /-- Later variables win over earlier ones. -/
  assignments : List (String × String)

inductive LoadError where
  | noDirectory (cause : StorageError)
  | noFile (path : String) (cause : StorageError)
  | unreadable
  | notFlat
  deriving DecidableEq, Repr

def LoadError.message : LoadError → String
  | noDirectory cause => "Unable to create scanlist directory: " ++ cause.message
  | noFile path cause => "Unable to create config file " ++ path ++ ": " ++ cause.message
  | unreadable => "Failed to build configuration"
  | notFlat => "Failed to deserialize configuration"

def template : String :=
  "### scanlist configuration file\n\n" ++
  "### filter applied to list views when none is given\n" ++
  "# default_filter = \"first=1 rows=10 sort=name\"\n\n" ++
  "### page size for list views (-1 shows all rows)\n" ++
  "# rows_per_page = 10\n"

def directory (env : Environment) : String := env.home ++ "/.scanlist"

def defaultPath (env : Environment) : String := directory env ++ "/scanlist.toml"

/-! ## Entries -/

/-- A setting is a text; anything with parts makes the settings unusable. -/
inductive Entry where
  | text (s : String)
  | nested
  deriving DecidableEq, Repr

def Entry.ofItem : Toml.Item → Entry
  | .scalar s => text s
  | _ => nested

def isNameChar (c : Char) : Bool := c.isAlphanum || c = '_' || c = '-'

/-- What follows an index and the bracket that closes it; the index has 64 bits and may have blanks
around it. -/
def afterIndex? (cs : List Char) : Option (List Char) := do
  let cs := cs.dropWhile Text.isSpace
  let (sign, cs) := match cs with
    | '-' :: cs => (['-'], cs)
    | cs => ([], cs)
  let digits := cs.takeWhile Char.isDigit
  discard (Decimal.readInt (sign ++ digits))
  match (cs.dropWhile Char.isDigit).dropWhile Text.isSpace with
  | ']' :: rest => some rest
  | _ => none

/-- Whether what follows a name reaches into it: `.name` and `[index]`, any number of them. -/
def isReach : Nat → List Char → Bool
  | _, [] => true
  | fuel + 1, '.' :: rest =>
    !(rest.takeWhile isNameChar).isEmpty && isReach fuel (rest.dropWhile isNameChar)
  | fuel + 1, '[' :: rest =>
    match afterIndex? rest with
    | some rest => isReach fuel rest
    | none => false
  | _, _ => false

/-- The name that a key sets, and whether it sets only a part of it. -/
def target (key : String) : String × Bool :=
  let chars := key.toList
  let name := chars.takeWhile isNameChar
  let rest := chars.dropWhile isNameChar
  if !name.isEmpty && !rest.isEmpty && isReach rest.length rest then (String.ofList name, true)
  else (key, false)

def setEntry (entries : List (String × Entry)) (key : String) (entry : Entry) :
    List (String × Entry) :=
  let (name, isPart) := target key
  (entries.filter (·.1 ≠ name)) ++ [(name, if isPart then .nested else entry)]

/-- The settings that variables make: those with the mark, under the rest of their name. -/
def ofVariables (assignments : List (String × String)) : List (String × Entry) :=
  assignments.filterMap fun (name, value) =>
    let mark := "scanlist_".toList
    let lower := Text.lower name.toList
    if mark.isPrefixOf lower then some (String.ofList (lower.drop mark.length), .text value)
    else none

def ofDocument (document : Toml.Entries) : List (String × Entry) :=
  document.map fun (key, item) => (key, Entry.ofItem item)

/-- The settings of a file, overlaid with those of the environment. -/
def build (document : Toml.Entries) (env : Environment) : Except LoadError Settings := do
  let all := (ofDocument document ++ ofVariables env.assignments).foldl
    (fun entries (key, entry) => setEntry entries key entry) []
  let texts ← all.mapM fun (name, entry) =>
    match entry with
    | .text s => .ok (name, s)
    | .nested => .error .notFlat
  return ofEntries texts

/-! ## Loading -/

variable {m : Type → Type} [Monad m] [Storage m]

/-- The path of the settings file; its directory is made when it is the usual one. -/
def locateFile (env : Environment) : Option String → m (Except LoadError String)
  | some path => return .ok path
  | none => do
    match ← Storage.makeDirectories (directory env) with
    | .ok _ => return .ok (defaultPath env)
    | .error e => return .error (.noDirectory e)

/-- A path, read from its end, without the slashes and names `.` that end it. -/
def stripEnd : List Char → List Char
  | '/' :: rest => stripEnd rest
  | '.' :: '/' :: rest => stripEnd rest
  | cs => cs

/-- The path with `.toml` after its last name, if it ends in one. -/
def withExtension? (path : String) : Option String :=
  let cs := stripEnd path.toList.reverse
  let name := cs.takeWhile (· ≠ '/')
  if name = [] || name = ['.'] || name = ['.', '.'] then none
  else some (String.ofList cs.reverse ++ ".toml")

/-- The path of the file to read: the path itself, or with an extension if no file is there. -/
def findFile (path : String) : m (Option String) := do
  if (← Storage.kind? path) == some .file then return some path
  match withExtension? path with
  | none => return none
  | some longer =>
    return if (← Storage.kind? longer) == some .file then some longer else none

/-- The document in a file. A mark of byte order may come before the one that documents may have. -/
def readDocument (path : String) : m (Except LoadError Toml.Entries) := do
  match ← Storage.readBytes path with
  | .ok bytes =>
    let document := Toml.read? (Text.withoutMark (Text.charsOfBytes bytes))
    return document.elim (.error .unreadable) .ok
  | .error _ => return .error .unreadable

/-- The document at a path, which is made from the template if nothing is there. -/
def loadDocument (path : String) : m (Except LoadError Toml.Entries) := do
  if (← Storage.kind? path).isSome then
    match ← findFile path with
    | some file => readDocument file
    | none => return .error .unreadable
  else
    match ← Storage.writeText path template with
    | .ok _ => return .ok []
    | .error e => return .error (.noFile path e)

def load (env : Environment) (path : Option String) : m (Except LoadError Settings) := do
  match ← locateFile env path with
  | .error e => return .error e
  | .ok file =>
    match ← loadDocument file with
    | .error e => return .error e
    | .ok document => return build document env

end ListView.Settings
