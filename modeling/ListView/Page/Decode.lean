import ListView.Filter.Presentation
import ListView.Page.Counts
import ListView.Page.Layout

/-!
# Pages

A page of a list: its entities, the filter that was applied and the counts. A
page decodes as a whole or not at all, and only an entity can make it fail: a
filter that is missing is empty, and missing counts are zero.
-/

namespace ListView

structure Page (α : Type) where
  entities : List α
  filter : Filter
  counts : Counts

/-- Why a response is no page: it is no object, or one of its entities fails for a cause of its
own. -/
inductive DecodeError (ε : Type) where
  | notAnObject
  | entity (keyword : String) (index : Nat) (cause : ε)
  deriving DecidableEq, Repr

def DecodeError.message (text : ε → String) : DecodeError ε → String
  | notAnObject => "response is not an object"
  | entity keyword index cause =>
    "failed to decode " ++ keyword ++ " #" ++ toString index ++ ": " ++ text cause

namespace Page

variable {ε α : Type}

/-- The part of the response that holds the list; `null` where the root leads nowhere. -/
def scope (l : Layout) (response : Json) : Logged Json :=
  match Element.path? response l.root with
  | some node => pure node
  | none => do
    Logged.note (.noSubtree l.root)
    return .null

/-- Decodes elements of which the first has this index. -/
def decodeFrom (decoder : Json → Except ε α) (keyword : String) (index : Nat) :
    List Json → Except (DecodeError ε) (List α)
  | [] => .ok []
  | element :: rest => do
    let entity ← (decoder element).mapError (.entity keyword index)
    let entities ← decodeFrom decoder keyword (index + 1) rest
    return entity :: entities

def readFilter (l : Layout) (scope : Json) : Logged Filter :=
  match l.filterText scope with
  | some text => Filter.read text
  | none => do
    Logged.note .noFilterText
    return ∅

/-- Decodes the list in `scope`, with its paging found by `paging`. -/
def decodeScope (paging : Json → Option Json) (l : Layout) (keyword : String)
    (decoder : Json → Except ε α) (scope : Json) : Logged (Except (DecodeError ε) (Page α)) :=
  match decodeFrom decoder keyword 0 (occurrences (l.entitiesNode keyword scope)) with
  | .error e => pure (.error e)
  | .ok entities => do
    let filter ← readFilter l scope
    let counts ← Counts.read (l.countsNode keyword scope) (paging scope)
    return .ok { entities, filter, counts }

def decodeBy (paging : Json → Option Json) (l : Layout) (keyword : String)
    (decoder : Json → Except ε α) (response : Json) : Logged (Except (DecodeError ε) (Page α)) :=
  if response.isObject then do
    let scope ← scope l response
    decodeScope paging l keyword decoder scope
  else pure (.error .notAnObject)

/-- Decodes a response with a paging element of its own. -/
def decode (l : Layout) (keyword : String) (decoder : Json → Except ε α) (response : Json) :
    Logged (Except (DecodeError ε) (Page α)) :=
  decodeBy (l.pagingNode keyword) l keyword decoder response

/-- Decodes a response whose entity elements carry the paging. -/
def decodeEmbedded (l : Layout) (keyword : String) (decoder : Json → Except ε α) (response : Json) :
    Logged (Except (DecodeError ε) (Page α)) :=
  decodeBy (l.embeddedPagingNode keyword) l keyword decoder response

def isEmpty (p : Page α) : Bool := p.entities.isEmpty

def toJson (entity : α → Json) (p : Page α) : Json :=
  .object [("entities", .array (p.entities.map entity)), ("filter", .string p.filter.print),
    ("counts", p.counts.toJson)]

end Page

end ListView
