import ListView.Occurrences
import ListView.Element
import ListView.Timestamp

/-!
# Entities

What entities of every type have in common. Only an element without an id fails
to decode; any other field that is missing or malformed is left empty. How times
are written is left to a reader of times.
-/

namespace ListView

structure UserTag where
  id : String
  name : String
  value : Option String
  deriving DecidableEq, Repr

structure Entity where
  id : String
  name : Option String
  comment : Option String
  owner : Option String
  creationTime : Option Timestamp
  modificationTime : Option Timestamp
  writable : Bool
  inUse : Bool
  permissions : List String
  userTags : List UserTag
  deriving DecidableEq, Repr

namespace Entity

inductive Error where
  | notAnObject
  | noId
  deriving DecidableEq, Repr

def Error.message : Error → String
  | notAnObject => "entity element is not an object"
  | noId => "entity element has no id"

/-! ## Decoding -/

def childText? (node : Json) (key : String) : Option String :=
  (Element.child? node key).bind Element.text?

def nonEmpty (s : String) : Bool := !s.isEmpty

def time? (readTime : List Char → Option Timestamp) (node : Json) (key : String) :
    Option Timestamp :=
  (childText? node key).bind fun s => readTime (Text.trim s.toList)

def flag (node : Json) (key : String) : Bool :=
  ((Element.child? node key).bind Element.flag?).getD false

def id? (element : Json) : Option String := (Element.attribute? element "id").bind Element.text?

def decodeTag? (node : Json) : Option UserTag := do
  let id ← id? node
  let name ← childText? node "name"
  return { id, name, value := (childText? node "value").filter nonEmpty }

def permissionsOf (element : Json) : List String :=
  (occurrences (Element.path? element ["permissions", "permission"])).filterMap
    (childText? · "name")

def tagsOf (element : Json) : List UserTag :=
  (occurrences (Element.path? element ["user_tags", "tag"])).filterMap decodeTag?

def decode (readTime : List Char → Option Timestamp) (element : Json) : Except Error Entity :=
  if !element.isObject then .error .notAnObject
  else match id? element with
    | none => .error .noId
    | some id => .ok {
        id
        name := childText? element "name"
        comment := (childText? element "comment").filter nonEmpty
        owner := (Element.path? element ["owner", "name"]).bind Element.text?
        creationTime := time? readTime element "creation_time"
        modificationTime := time? readTime element "modification_time"
        writable := flag element "writable"
        inUse := flag element "in_use"
        permissions := permissionsOf element
        userTags := tagsOf element }

/-- Whether the user holds the permission, or the one that stands for all. -/
def userCan (e : Entity) (permission : String) : Bool :=
  e.permissions.any fun p => p = permission || p = "everything"

end Entity

/-! ## As records -/

namespace UserTag

def toJson (t : UserTag) : Json :=
  .object ([("id", .string t.id), ("name", .string t.name)] ++
    Json.optionalField "value" t.value .string)

def ofJson? (v : Json) : Option UserTag := do
  let r ← Json.Record.of? ["id", "name", "value"] v
  return {
    id := ← r.required? "id" Json.string?
    name := ← r.required? "name" Json.string?
    value := ← r.optional? "value" Json.string? }

end UserTag

namespace Entity

def fieldNames : List String :=
  ["id", "name", "comment", "owner", "creation_time", "modification_time", "writable", "in_use",
    "permissions", "user_tags"]

def toJson (e : Entity) : Json :=
  .object ([("id", .string e.id)] ++ Json.optionalField "name" e.name .string ++
    Json.optionalField "comment" e.comment .string ++ Json.optionalField "owner" e.owner .string ++
    Json.optionalField "creation_time" e.creationTime Timestamp.toJson ++
    Json.optionalField "modification_time" e.modificationTime Timestamp.toJson ++
    [("writable", .bool e.writable), ("in_use", .bool e.inUse),
      ("permissions", .strings e.permissions),
      ("user_tags", .array (e.userTags.map UserTag.toJson))])

def ofJson? (v : Json) : Option Entity := do
  let r ← Json.Record.of? fieldNames v
  return {
    id := ← r.required? "id" Json.string?
    name := ← r.optional? "name" Json.string?
    comment := ← r.optional? "comment" Json.string?
    owner := ← r.optional? "owner" Json.string?
    creationTime := ← r.optional? "creation_time" Timestamp.ofJson?
    modificationTime := ← r.optional? "modification_time" Timestamp.ofJson?
    writable := ← r.required? "writable" Json.bool?
    inUse := ← r.required? "in_use" Json.bool?
    permissions := ← r.required? "permissions" (Json.listOf? Json.string?)
    userTags := ← r.required? "user_tags" (Json.listOf? UserTag.ofJson?) }

end Entity

end ListView
