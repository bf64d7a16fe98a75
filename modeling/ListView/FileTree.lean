import ListView.Storage

/-!
# File trees

Files and directories as a value. A place is its names from the top; the top
itself is a directory. A path is followed name by name, so that each name
but the last must be that of a directory, even where `..` leads out of it.
-/

namespace ListView

structure FileTree where
  /-- `none` is a directory; a file holds its bytes. -/
  nodes : List (List String × Option ByteArray)

namespace FileTree

abbrev Place := List String

def empty : FileTree := ⟨[]⟩

/-- What stands at a place: nothing, a directory or a file. -/
def get? (t : FileTree) (place : Place) : Option (Option ByteArray) :=
  if place.isEmpty then some none else t.nodes.lookup place

/-- Puts a node in the place of the one that is there, or adds it. -/
def set (t : FileTree) (place : Place) (node : Option ByteArray) : FileTree :=
  ⟨(place, node) :: t.nodes.filter (·.1 ≠ place)⟩

/-! ## Paths -/

/-- The limits on a name and on a path, in bytes; the path's counts a byte for its end. -/
def maxNameBytes : Nat := 255
def maxPathBytes : Nat := 4096

def names (path : String) : List String := (path.splitToList (· = '/')).filter (· ≠ "")

/-- Nothing may be under a place that is not a directory. -/
def checkDirectory (t : FileTree) (place : Place) : Except StorageError Unit :=
  match t.get? place with
  | none => .error .notFound
  | some none => .ok ()
  | some (some _) => .error .notDirectory

/-- The place that a name leads to from a directory. -/
def enter (here : Place) (name : String) : Except StorageError Place :=
  if name = "." then .ok here
  else if name = ".." then .ok here.dropLast
  else if maxNameBytes < name.utf8ByteSize then .error .nameTooLong
  else .ok (here ++ [name])

/-- The place that names lead to from `here`; there need be nothing at it. -/
def follow (t : FileTree) (here : Place) : List String → Except StorageError Place
  | [] => .ok here
  | name :: rest => do
    t.checkDirectory here
    t.follow (← enter here name) rest

/-- What rules a path out before it is followed. -/
def checkPath (path : String) : Except StorageError Unit :=
  if path.toList.contains '\x00' then .error .zeroInPath
  else if path.isEmpty then .error .notFound
  else if maxPathBytes ≤ path.utf8ByteSize then .error .nameTooLong
  else .ok ()

def endsInSlash (path : String) : Bool := path.toList.getLast? == some '/'

/-- The place of something that is to be looked at; a slash at the end asks for a directory. -/
def locate (t : FileTree) (path : String) : Except StorageError Place := do
  checkPath path
  t.follow [] (names path ++ if endsInSlash path then ["."] else [])

/-- The place of a file to write, which a slash at the end would make a directory. -/
def locateNew (t : FileTree) (path : String) : Except StorageError Place := do
  checkPath path
  if endsInSlash path then
    t.checkDirectory (← t.follow [] (names path).dropLast)
    .error .isDirectory
  else t.follow [] (names path)

/-! ## Operations -/

def kind? (t : FileTree) (path : String) : Option FileKind :=
  match t.locate path with
  | .ok place => (t.get? place).map fun node => if node.isSome then .file else .directory
  | .error _ => none

def readBytes (t : FileTree) (path : String) : Except StorageError ByteArray := do
  match t.get? (← t.locate path) with
  | none => .error .notFound
  | some none => .error .isDirectory
  | some (some bytes) => .ok bytes

def writeText (t : FileTree) (path text : String) : Except StorageError FileTree := do
  let place ← t.locateNew path
  match t.get? place with
  | some none => .error .isDirectory
  | _ => .ok (t.set place (some text.toUTF8))

/-- Makes the directories that names lead through from `here`. -/
def makeBelow (t : FileTree) (here : Place) : List String → Except StorageError FileTree
  | [] => .ok t
  | name :: rest => do
    let next ← enter here name
    match t.get? next with
    | none => (t.set next none).makeBelow next rest
    | some none => t.makeBelow next rest
    | some (some _) => .error (if rest.isEmpty then .alreadyExists else .notDirectory)

def makeDirectories (t : FileTree) (path : String) : Except StorageError FileTree := do
  checkPath path
  t.makeBelow [] (names path)

/-- The changed tree, or the error and the tree as it was. -/
def change (f : FileTree → Except StorageError FileTree) :
    StateM FileTree (Except StorageError Unit) := fun t =>
  match f t with
  | .ok t => (.ok (), t)
  | .error e => (.error e, t)

instance : Storage (StateM FileTree) where
  kind? path := return (← get).kind? path
  readBytes path := return (← get).readBytes path
  writeText path text := change (·.writeText path text)
  makeDirectories path := change (·.makeDirectories path)

end FileTree

end ListView
