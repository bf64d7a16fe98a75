import ListView.Timestamp

/-!
# Dates and times of TOML

A date, a time of day, or both, then perhaps with an offset from UTC. Seconds may
be left out; a fraction is cut after nanoseconds and written without zeros at
its end.
-/

namespace ListView.Toml

structure Second where
  whole : Nat
  /-- The fraction, if one is given. -/
  nanosecond : Option Nat
  deriving DecidableEq, Repr

structure Time where
  hour : Nat
  minute : Nat
  second : Option Second
  deriving DecidableEq, Repr

inductive Offset where
  | utc
  | minutes (n : Int)
  deriving DecidableEq, Repr

inductive DateTime where
  | date (d : Date)
  | time (t : Time)
  | dateTime (d : Date) (t : Time) (offset : Option Offset)
  deriving DecidableEq, Repr

namespace DateTime

/-! ## Reading -/

open Timestamp.Reader

abbrev Reader := Timestamp.Reader

def readDate : Reader Date := do
  let year ← number 4 4
  literal '-'
  let month ← number 2 2
  literal '-'
  let day ← number 2 2
  let d : Date := ⟨year, month, day⟩
  guard d.isValid
  return d

/-- Whether this character comes next. -/
def at? (c : Char) : Reader Bool := return (← get).head? == some c

def readSecond : Reader Second := do
  let whole ← number 2 2
  guard (whole ≤ 60)
  if ← at? '.' then return ⟨whole, some (← fraction)⟩
  return ⟨whole, none⟩

def readTime : Reader Time := do
  let hour ← number 2 2
  literal ':'
  let minute ← number 2 2
  guard (hour < 24 && minute < 60)
  if ← at? ':' then
    literal ':'
    return ⟨hour, minute, some (← readSecond)⟩
  return ⟨hour, minute, none⟩

def readOffset : Reader Offset := do
  let sign ← charIn ['Z', 'z', '+', '-']
  if sign = 'Z' || sign = 'z' then return .utc
  let hours ← number 2 2
  literal ':'
  let minutes ← number 2 2
  guard (hours < 24 && minutes < 60)
  let n : Int := 60 * hours + minutes
  return .minutes (if sign = '-' then -n else n)

def reader : Reader DateTime :=
  (return .time (← readTime)) <|> do
    let d ← readDate
    if (← get).isEmpty then return .date d
    discard (charIn dateTimeSeparators)
    let t ← readTime
    if (← get).isEmpty then return .dateTime d t none
    return .dateTime d t (some (← readOffset))

def read? (cs : List Char) : Option DateTime := do
  let (d, rest) ← reader cs
  guard rest.isEmpty
  return d

/-! ## Writing -/

open Timestamp (padded)

def dateText (d : Date) : String :=
  padded 4 d.year.toNat ++ "-" ++ padded 2 d.month ++ "-" ++ padded 2 d.day

/-- At least one digit, and no further zeros at the end. -/
def fractionText (nanosecond : Nat) : String :=
  let digits := ((padded 9 nanosecond).toList.reverse.dropWhile (· = '0')).reverse
  if digits.isEmpty then "0" else String.ofList digits

def secondText (s : Second) : String :=
  padded 2 s.whole ++ match s.nanosecond with
    | none => ""
    | some n => "." ++ fractionText n

def timeText (t : Time) : String :=
  padded 2 t.hour ++ ":" ++ padded 2 t.minute ++ match t.second with
    | none => ""
    | some s => ":" ++ secondText s

def offsetText : Offset → String
  | .utc => "Z"
  | .minutes n =>
    (if n < 0 then "-" else "+") ++ padded 2 (n.natAbs / 60) ++ ":" ++ padded 2 (n.natAbs % 60)

def text : DateTime → String
  | date d => dateText d
  | time t => timeText t
  | dateTime d t offset =>
    dateText d ++ "T" ++ timeText t ++ (offset.map offsetText).getD ""

end DateTime

end ListView.Toml
