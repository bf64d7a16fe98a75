import ListView.Decimal.Binary

/-!
# Numbers read from text

Whole numbers of 64 bits with a sign, and decimal numbers with an optional
fraction and exponent. Digits are ASCII.
-/

namespace ListView.Decimal

def digitsValue (cs : List Char) : Nat :=
  cs.foldl (fun n c => 10 * n + (c.toNat - '0'.toNat)) 0

/-- The sign in front of a number, `true` for a minus, and the rest. -/
def takeSign : List Char → Bool × List Char
  | '-' :: rest => (true, rest)
  | '+' :: rest => (false, rest)
  | cs => (false, cs)

def minInt : Int := -0x8000000000000000
def maxInt : Int := 0x7FFFFFFFFFFFFFFF

def signedValue (negative : Bool) (digits : List Char) : Int :=
  if negative then -digitsValue digits else digitsValue digits

/-- A whole number of 64 bits. -/
def readInt (cs : List Char) : Option Int :=
  let (negative, digits) := takeSign cs
  let n := signedValue negative digits
  if digits.isEmpty || !digits.all Char.isDigit then none
  else if minInt ≤ n && n ≤ maxInt then some n
  else none

theorem readInt_bounds {cs : List Char} {n : Int} (h : readInt cs = some n) :
    minInt ≤ n ∧ n ≤ maxInt := by
  simp only [readInt] at h
  split at h
  · cases h
  · split at h
    · rename_i hb
      cases h
      simpa using hb
    · cases h

/-- The exponent after a mantissa: nothing, or a letter, a sign and digits up to the end. -/
def readExponent : List Char → Option Int
  | [] => some 0
  | c :: rest =>
    let (negative, digits) := takeSign rest
    if (c != 'e' && c != 'E') || digits.isEmpty || !digits.all Char.isDigit then none
    else some (signedValue negative digits)

/-- A finite double: digits with an optional point among or around them, and an exponent. -/
def readFloat (cs : List Char) : Option Float := do
  let (negative, body) := takeSign cs
  let whole := body.takeWhile Char.isDigit
  let (fraction, rest) := match body.dropWhile Char.isDigit with
    | '.' :: rest => (rest.takeWhile Char.isDigit, rest.dropWhile Char.isDigit)
    | rest => ([], rest)
  guard !(whole.isEmpty && fraction.isEmpty)
  let exponent ← readExponent rest
  let x ← nearest (digitsValue (whole ++ fraction)) (exponent - fraction.length)
  return signed negative x

end ListView.Decimal
