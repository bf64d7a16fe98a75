import ListView.Decimal.Reader
import ListView.Json.Record
import ListView.Text.Blank

/-!
# Timestamps

Points in time as UTC dates and times of day. They are read from Internet dates
with an offset (`2024-03-02T12:30:00+02:00`); a second reader puts up with blanks,
unpadded numbers and signed years. A leap second is kept as second 60, and
a fraction beyond nanoseconds is cut.
-/

namespace ListView

structure Date where
  year : Int
  month : Nat
  day : Nat
  deriving DecidableEq, Repr

namespace Date

def isLeapYear (year : Int) : Bool := year % 4 = 0 && (year % 100 ≠ 0 || year % 400 = 0)

def monthLength (year : Int) (month : Nat) : Nat :=
  if month = 2 then if isLeapYear year then 29 else 28
  else if month = 4 || month = 6 || month = 9 || month = 11 then 30
  else 31

def isValid (d : Date) : Bool :=
  1 ≤ d.month && d.month ≤ 12 && 1 ≤ d.day && d.day ≤ monthLength d.year d.month

def next (d : Date) : Date :=
  if d.day < monthLength d.year d.month then { d with day := d.day + 1 }
  else if d.month < 12 then ⟨d.year, d.month + 1, 1⟩
  else ⟨d.year + 1, 1, 1⟩

def previous (d : Date) : Date :=
  if 1 < d.day then { d with day := d.day - 1 }
  else if 1 < d.month then ⟨d.year, d.month - 1, monthLength d.year (d.month - 1)⟩
  else ⟨d.year - 1, 12, 31⟩

end Date

structure Timestamp where
  date : Date
  hour : Nat
  minute : Nat
  second : Nat
  nanosecond : Nat
  deriving DecidableEq, Repr

namespace Timestamp

def minutesPerDay : Int := 24 * 60

/-- The UTC time of a local time that is `offset` minutes ahead of UTC, less than a day. -/
def ofLocal (t : Timestamp) (offset : Int) : Timestamp :=
  let minutes : Int := 60 * t.hour + t.minute - offset
  let date := if minutes < 0 then t.date.previous
    else if minutesPerDay ≤ minutes then t.date.next else t.date
  let minutes := (minutes % minutesPerDay).toNat
  { t with date, hour := minutes / 60, minute := minutes % 60 }

def isValid (t : Timestamp) : Bool :=
  t.date.isValid && t.hour < 24 && t.minute < 60 && t.second ≤ 60

/-! ## Reading -/

abbrev Reader := StateT (List Char) Option

namespace Reader

/-- From `least` to `most` digits, as many as there are. -/
def number (least most : Nat) : Reader Nat := do
  let cs ← get
  let digits := (cs.take most).takeWhile Char.isDigit
  guard (least ≤ digits.length)
  set (cs.drop digits.length)
  return Decimal.digitsValue digits

def charIn (allowed : List Char) : Reader Char := do
  let c :: rest ← get | failure
  guard (allowed.contains c)
  set rest
  return c

def literal (c : Char) : Reader Unit := discard (charIn [c])

def skip (p : Char → Bool) : Reader Unit := modify (·.dropWhile p)

def skipBlanks : Reader Unit := skip Text.isBlank

/-- The nanoseconds of a fraction, if a point follows. -/
def fraction : Reader Nat := do
  let '.' :: rest ← get | return 0
  let digits := rest.takeWhile Char.isDigit
  guard (!digits.isEmpty)
  set (rest.dropWhile Char.isDigit)
  let kept := digits.take 9
  return Decimal.digitsValue kept * Nat.pow 10 (9 - kept.length)

/-- The minutes of an offset such as `+02:00`, with `separator` between its parts. -/
def signedOffset (separator : Reader Unit) : Reader Int := do
  let sign ← charIn ['+', '-', '\u2212']
  let hours ← number 2 2
  separator
  let minutes ← number 2 2
  guard (hours < 24 && minutes < 60)
  let offset : Int := 60 * hours + minutes
  return if sign = '+' then offset else -offset

/-- An offset, or the letter for UTC. -/
def offset (separator : Reader Unit) : Reader Int := do
  match (← get).head? with
  | some 'Z' | some 'z' =>
    modify (·.drop 1)
    return 0
  | _ => signedOffset separator

def dateTimeSeparators : List Char := ['T', 't', ' ']

def minYear : Int := -262143
def maxYear : Int := 262142

def isYear (year : Int) : Bool := minYear ≤ year && year ≤ maxYear

/-- The end of the text; the years of the local time and of UTC are within bounds. -/
def finish (t : Timestamp) (offset : Int) : Reader Timestamp := do
  guard (t.isValid && isYear t.date.year)
  guard (← get).isEmpty
  let utc := t.ofLocal offset
  guard (isYear utc.date.year)
  return utc

/-- The strict form: numbers of fixed length without blanks. -/
def internet : Reader Timestamp := do
  let year ← number 4 4
  literal '-'
  let month ← number 2 2
  literal '-'
  let day ← number 2 2
  discard (charIn dateTimeSeparators)
  let hour ← number 2 2
  literal ':'
  let minute ← number 2 2
  literal ':'
  let second ← number 2 2
  let nanosecond ← fraction
  let offset ← offset (literal ':')
  finish ⟨⟨year, month, day⟩, hour, minute, second, nanosecond⟩ offset

/-- A year of at most four digits, or any year with its sign. -/
def signedYear : Reader Int := do
  let cs ← get
  match cs with
  | '-' :: rest =>
    set rest
    return -(← number 1 cs.length)
  | '+' :: rest =>
    set rest
    return ← number 1 cs.length
  | _ => return ← number 1 4

/-- A number of one or two digits after blanks. -/
def looseNumber : Reader Nat := do
  skipBlanks
  number 1 2

def looseLiteral (c : Char) : Reader Unit := do
  skipBlanks
  literal c

def looseOffset : Reader Int := do
  let cs ← get
  if (cs.take 3).map Char.toUpper = ['U', 'T', 'C'] then
    set (cs.drop 3)
    return 0
  else offset (skip fun c => c = ':' || Text.isBlank c)

/-- The loose form: blanks between the parts, short numbers and years of any length. -/
def loose : Reader Timestamp := do
  skipBlanks
  let year ← signedYear
  looseLiteral '-'
  let month ← looseNumber
  looseLiteral '-'
  let day ← looseNumber
  discard (charIn dateTimeSeparators)
  let hour ← looseNumber
  looseLiteral ':'
  let minute ← looseNumber
  looseLiteral ':'
  let second ← looseNumber
  let nanosecond ← fraction
  skipBlanks
  let offset ← looseOffset
  skipBlanks
  finish ⟨⟨year, month, day⟩, hour, minute, second, nanosecond⟩ offset

end Reader

def read? (cs : List Char) : Option Timestamp := Reader.internet.run' cs

def readLoosely? (cs : List Char) : Option Timestamp := Reader.loose.run' cs

/-! ## Writing -/

/-- At least `width` digits. -/
def padded (width n : Nat) : String :=
  let digits := Nat.toDigits 10 n
  String.ofList (List.replicate (width - digits.length) '0' ++ digits)

/-- Four digits; a year outside of them has a sign. -/
def yearText (year : Int) : String :=
  if 0 ≤ year && year ≤ 9999 then padded 4 year.toNat
  else (if year < 0 then "-" else "+") ++ padded 4 year.natAbs

/-- The fraction in the fewest groups of three digits that are exact. -/
def fractionText (nanosecond : Nat) : String :=
  if nanosecond = 0 then ""
  else if nanosecond % 1000000 = 0 then "." ++ padded 3 (nanosecond / 1000000)
  else if nanosecond % 1000 = 0 then "." ++ padded 6 (nanosecond / 1000)
  else "." ++ padded 9 nanosecond

/-- The time with this mark for UTC at its end. -/
def write (t : Timestamp) (utc : String) : String :=
  yearText t.date.year ++ "-" ++ padded 2 t.date.month ++ "-" ++ padded 2 t.date.day ++ "T" ++
    padded 2 t.hour ++ ":" ++ padded 2 t.minute ++ ":" ++ padded 2 t.second ++
    fractionText t.nanosecond ++ utc

def toJson (t : Timestamp) : Json := .string (t.write "Z")

def ofJson? (v : Json) : Option Timestamp := v.string?.bind fun s => readLoosely? s.toList

end Timestamp

end ListView
