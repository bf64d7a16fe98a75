/-!
# Command-line options

A small grammar of arguments: flags, options that take a value once or any number
of times, and plain arguments. A long name is set off by two dashes and takes its
value after a blank or an equals sign; short names may be joined behind one
dash. After `--` every argument is plain. A value begins with a dash only where
it is joined to its option. A value in an argument of its own is looked at only
when the next argument is read.
-/

namespace ListView.Command

inductive Arity where
  | flag
  | once
  | many
  deriving DecidableEq, Repr

/-- An option by its long name and, if it has one, its letter. -/
structure Switch where
  name : String
  letter : Option Char
  arity : Arity
  /-- Whether a text can be a value of the option. -/
  accepts : String → Bool := fun _ => true

/-- What was read: the options in order, each with its value if it takes one, and the plain
arguments. -/
structure Matches where
  options : List (String × String)
  plain : List String
  deriving DecidableEq, Repr

namespace Matches

def empty : Matches := ⟨[], []⟩

def has (m : Matches) (name : String) : Bool := m.options.any (·.1 == name)

def value? (m : Matches) (name : String) : Option String := m.options.lookup name

def values (m : Matches) (name : String) : List String :=
  (m.options.filter (·.1 == name)).map (·.2)

/-- Adds an option, which may repeat only if it takes many values, with a value it accepts. -/
def add? (m : Matches) (s : Switch) (value : String) : Option Matches :=
  if (s.arity ≠ .many && m.has s.name) || !s.accepts value then none
  else some { m with options := m.options ++ [(s.name, value)] }

/-- Adds an option whose value is still to be looked at, if there is one. -/
def settle? (m : Matches) (pending : Option (Switch × String)) : Option Matches :=
  match pending with
  | none => some m
  | some (s, value) => m.add? s value

/-- Adds a plain argument if there is a place for it that accepts it. -/
def addPlain? (places : List (String → Bool)) (m : Matches) (argument : String) :
    Option Matches := do
  let accepts ← places[m.plain.length]?
  guard (accepts argument)
  return { m with plain := m.plain ++ [argument] }

end Matches

/-- What one argument does: it may be complete, ask for a value in the next argument, or ask
for an end to the reading. -/
inductive Step where
  | done (m : Matches)
  | awaits (m : Matches) (s : Switch)
  | stop (name : String)

/-- Options that end the reading as soon as they are met. -/
def isStop (name : String) : Bool := name = "help" || name = "version"

def isDashed (argument : List Char) : Bool :=
  match argument with
  | '-' :: _ :: _ => true
  | _ => false

def readLong (switches : List Switch) (m : Matches) (argument : List Char) : Option Step := do
  let name := String.ofList (argument.takeWhile (· ≠ '='))
  let s ← switches.find? (·.name == name)
  match argument.dropWhile (· ≠ '='), s.arity with
  | [], .flag => if isStop name then return .stop name else return .done (← m.add? s "")
  | _, .flag => none
  | [], _ => return .awaits m s
  | _ :: value, _ => return .done (← m.add? s (String.ofList value))

/-- Reads letters that are joined behind one dash. -/
def readLetters (switches : List Switch) (m : Matches) : List Char → Option Step
  | [] => some (.done m)
  | letter :: rest => do
    let s ← switches.find? (·.letter == some letter)
    match s.arity, rest with
    | .flag, _ =>
      if isStop s.name then return .stop s.name else readLetters switches (← m.add? s "") rest
    | _, [] => return .awaits m s
    | _, '=' :: value => return .done (← m.add? s (String.ofList value))
    | _, value => return .done (← m.add? s (String.ofList value))

/-- How a reading ends: with everything read, at a plain argument that is not the reader's own, with
an option that is still pending and what follows the argument, or at an option that ends it. -/
inductive Outcome where
  | all (m : Matches)
  | handOver (m : Matches) (pending : Option (Switch × String)) (argument : String)
      (rest : List String)
  | stopped (name : String)

/-- Reads arguments. With `leading`, the first plain argument ends the reading; otherwise each takes
the next of `places`. -/
def readArguments (switches : List Switch) (leading : Bool) (places : List (String → Bool))
    (pending : Option (Switch × String)) (m : Matches) : List String → Option Outcome
  | [] => (m.settle? pending).map .all
  | argument :: rest =>
    if argument = "--" then do
      return .all (← rest.foldlM (Matches.addPlain? places) (← m.settle? pending))
    else if isDashed argument.toList then do
      let m ← m.settle? pending
      let step ← match argument.toList with
        | '-' :: '-' :: long => readLong switches m long
        | letters => readLetters switches m (letters.drop 1)
      match step, rest with
      | .done m, rest => readArguments switches leading places none m rest
      | .stop name, _ => return .stopped name
      | .awaits _ _, [] => none
      | .awaits m s, value :: rest =>
        if isDashed value.toList then none
        else readArguments switches leading places (some (s, value)) m rest
    else if leading then some (.handOver m pending argument rest)
    else do
      let m ← (← m.settle? pending).addPlain? places argument
      readArguments switches leading places none m rest

end ListView.Command
