import ListView.Command.Run

/-!
# The command line

Runs a command on the system's files and environment.
-/

namespace ListView.Main

/-- The system's number for an error, which some operations report with its sign turned. -/
def systemCode (code : UInt32) : Nat := if code < 0x80000000 then code.toNat else (-code).toNat

def storageError : IO.Error → StorageError
  | .noFileOrDirectory .. => .notFound
  | .inappropriateType _ code _ => if systemCode code = 20 then .notDirectory else .isDirectory
  | .alreadyExists .. => .alreadyExists
  | .invalidArgument path code details =>
    if systemCode code = 36 then .nameTooLong
    else .other (IO.Error.invalidArgument path code details).toString
  | .permissionDenied .. => .permissionDenied
  | e => .other e.toString

def attempt (action : IO α) : IO (Except StorageError α) := do
  match ← action.toBaseIO with
  | .ok a => return .ok a
  | .error e => return .error (storageError e)

def fileKind : IO.FS.FileType → FileKind
  | .file => .file
  | .dir => .directory
  | _ => .special

/-- What is at a path, links followed. -/
def kind? (path : String) : IO (Option FileKind) := do
  if path.isEmpty then return none
  let here ← IO.currentDir
  match ← attempt (here / path).metadata with
  | .error _ => return none
  | .ok found => return some (fileKind found.type)

/-- Makes a directory, with those above it only if they are missing. -/
def makeDirectories (path : String) : IO (Except StorageError Unit) := do
  match ← attempt (IO.FS.createDir path) with
  | .ok _ => return .ok ()
  | .error .notFound => attempt (IO.FS.createDirAll path)
  | .error e => return if (← kind? path) == some .directory then .ok () else .error e

instance : Storage IO where
  kind? := kind?
  readBytes path := attempt (IO.FS.readBinFile path)
  writeText path text := attempt (IO.FS.writeFile path text)
  makeDirectories := makeDirectories

/-- The variables of the process, each a name and a value around an equals sign. -/
def assignments : IO (List (String × String)) := do
  match ← attempt (IO.FS.readBinFile "/proc/self/environ") with
  | .error _ => return []
  | .ok bytes =>
    let text := (String.fromUTF8? bytes).getD ""
    return (text.splitToList (· = '\x00')).map fun entry =>
      let cs := entry.toList
      (String.ofList (cs.takeWhile (· ≠ '=')), String.ofList ((cs.dropWhile (· ≠ '=')).drop 1))

end ListView.Main

open ListView in
def main (arguments : List String) : IO UInt32 := do
  let home := (← IO.getEnv "HOME").getD "~"
  let result ← Command.run (m := IO) ⟨home, ← Main.assignments⟩ arguments
  for e in result.events do
    IO.eprintln e.line
  IO.print result.output
  IO.eprint result.errors
  return UInt32.ofNat result.exit
