/-!
# Storage

The few things that are done with files, over any monad: the program does them
on the system's files, a file tree on itself.
-/

namespace ListView

inductive StorageError where
  | notFound
  | notDirectory
  | isDirectory
  | alreadyExists
  | nameTooLong
  | permissionDenied
  | notText
  | zeroInPath
  | other (reason : String)
  deriving DecidableEq, Repr

/-- The system's wording. -/
def StorageError.message : StorageError → String
  | notFound => "No such file or directory (os error 2)"
  | notDirectory => "Not a directory (os error 20)"
  | isDirectory => "Is a directory (os error 21)"
  | alreadyExists => "File exists (os error 17)"
  | nameTooLong => "File name too long (os error 36)"
  | permissionDenied => "Permission denied (os error 13)"
  | notText => "stream did not contain valid UTF-8"
  | zeroInPath => "file name contained an unexpected NUL byte"
  | other reason => reason

/-- What stands at a path; all that is neither a directory nor a plain file is special. -/
inductive FileKind where
  | file
  | directory
  | special
  deriving DecidableEq, Repr

class Storage (m : Type → Type) where
  kind? : String → m (Option FileKind)
  readBytes : String → m (Except StorageError ByteArray)
  writeText : String → String → m (Except StorageError Unit)
  /-- Makes a directory and those above it that are missing. -/
  makeDirectories : String → m (Except StorageError Unit)

namespace Storage

def textOf (bytes : ByteArray) : Except StorageError String :=
  match String.fromUTF8? bytes with
  | some text => .ok text
  | none => .error .notText

def readText {m : Type → Type} [Monad m] [Storage m] (path : String) :
    m (Except StorageError String) :=
  return (← readBytes path).bind textOf

end Storage

end ListView
