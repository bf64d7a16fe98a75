import ListView.Entity
import ListView.Json.Reader
import ListView.Page.Decode
import ListView.Storage
import ListView.Table

/-!
# Listings

A page of entities of any type, read from a response or a file of it and shown
with its place in the list.
-/

namespace ListView

/-- Which list to read from a response, and where its parts stand. -/
structure Listing where
  entity : String
  plural : Option String
  root : List String
  embeddedPaging : Bool
  deriving DecidableEq, Repr

namespace Listing

inductive Error where
  | blankEntity
  | notJson
  | unreadable (path : String) (cause : StorageError)
  | decode (cause : DecodeError Entity.Error)
  deriving DecidableEq, Repr

def Error.message : Error → String
  | blankEntity => "entity keyword must not be empty"
  | notJson => "response is not valid JSON"
  | unreadable path cause => "Unable to read " ++ path ++ ": " ++ cause.message
  | decode cause => cause.message Entity.Error.message

def layout (l : Listing) : Layout := { Layout.default with root := l.root, plural := l.plural }

/-! ## Reading -/

def decode (l : Listing) (response : Json) : Logged (Except Error (Page Entity)) :=
  if Text.allBlank l.entity then return .error .blankEntity
  else do
    let decoder := if l.embeddedPaging then Page.decodeEmbedded else Page.decode
    match ← decoder l.layout l.entity (Entity.decode Timestamp.read?) response with
    | .error e => return .error (.decode e)
    | .ok page =>
      Logged.note (.decoded page.entities.length l.entity page.counts.filtered)
      return .ok page

def decodeText (l : Listing) (text : String) : Logged (Except Error (Page Entity)) :=
  match Json.read text.toList with
  | some response => l.decode response
  | none => return .error .notJson

def decodeFile {m : Type → Type} [Monad m] [Storage m] (l : Listing) (path : String) :
    m (Logged (Except Error (Page Entity))) := do
  match ← Storage.readText path with
  | .ok text => return l.decodeText text
  | .error e => return pure (.error (.unreadable path e))

/-! ## Showing -/

def columns : List String := ["id", "name", "owner", "modified", "comment"]

/-- Comments are cut to this many characters in tables. -/
def commentLimit : Nat := 40

def cells (e : Entity) : List String :=
  [e.id, e.name.getD "", e.owner.getD "",
    (e.modificationTime.map (·.write "+00:00")).getD "",
    Text.truncate commentLimit (e.comment.getD "")]

def table (page : Page Entity) : Table := ⟨columns, page.entities.map cells⟩

/-- A table with the page's place in the list and its filter under it. -/
def drawn (page : Page Entity) (style : Table.Style) : String :=
  (table page).draw style ++ "\n" ++ page.counts.summary ++ "\nfilter: " ++ page.filter.print

def format (page : Page Entity) (format : OutputFormat) : String :=
  match format with
  | .table => drawn page .rounded
  | .markdown => drawn page .markdown
  | .psv => (table page).psv
  | .json | .jsonPretty => format.writeJson (page.toJson Entity.toJson)

/-! ## As a record -/

def fieldNames : List String := ["entity", "plural", "root", "embedded_paging"]

def toJson (l : Listing) : Json :=
  .object (fieldNames.zip [.string l.entity, Json.ofOption .string l.plural, .strings l.root,
    .bool l.embeddedPaging])

/-- Only the entity's keyword must be there. -/
def ofJson? (v : Json) : Option Listing := do
  let r ← Json.Record.of? fieldNames v
  return {
    entity := ← r.required? "entity" Json.string?
    plural := ← r.withDefault? "plural" none (Json.optional? Json.string?)
    root := ← r.withDefault? "root" [] (Json.listOf? Json.string?)
    embeddedPaging := ← r.withDefault? "embedded_paging" false Json.bool? }

end Listing

end ListView
