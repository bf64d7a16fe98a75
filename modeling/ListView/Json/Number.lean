import ListView.Decimal.Reader
import ListView.Json.Basic

/-!
# Number literals

A whole literal of 64 bits, signed or not, is a whole number; every other
literal, and `-0`, is a double. A double is made from the leading digits that
fit 64 bits, scaled by one power of ten at a time: it may differ in its last bit
from the double nearest to the literal.
-/

namespace ListView.Json

/-- Adds digits to `n` while the result fits 64 bits; what does not fit is left over. -/
def takeDigits (n : Nat) : List Char → Nat × List Char
  | [] => (n, [])
  | c :: rest =>
    let next := 10 * n + (c.toNat - '0'.toNat)
    if next < Nat.pow 2 64 then takeDigits next rest else (n, c :: rest)

def toDouble (n : Nat) : Float := (Decimal.nearest n 0).getD 0

def powerOfTen (n : Nat) : Float := (Decimal.nearest 1 n).getD 0

/-- `significand * 10 ^ exponent`, or `none` beyond the largest double. -/
def scaled (significand : Nat) (exponent : Int) : Option Float :=
  let x := toDouble significand
  if significand = 0 then some x
  else if exponent > 308 then none
  else if 0 ≤ exponent then
    let y := x * powerOfTen exponent.toNat
    if y.isInf then none else some y
  else if -308 ≤ exponent then some (x / powerOfTen (-exponent).toNat)
  else if -616 ≤ exponent then some (x / powerOfTen 308 / powerOfTen (-exponent - 308).toNat)
  else some 0

/-- The part after the whole digits: an optional fraction and an optional exponent, as the digits
of the one and the value of the other. -/
def splitTail (cs : List Char) : Option (List Char × Int) :=
  match cs with
  | '.' :: rest =>
    let digits := rest.takeWhile Char.isDigit
    if digits.isEmpty then none
    else (Decimal.readExponent (rest.dropWhile Char.isDigit)).map (digits, ·)
  | _ => (Decimal.readExponent cs).map ([], ·)

/-- A JSON number literal. -/
def readNumber (cs : List Char) : Option Json := do
  let (negative, body) := match cs with
    | '-' :: rest => (true, rest)
    | _ => (false, cs)
  let whole := body.takeWhile Char.isDigit
  let tail := body.dropWhile Char.isDigit
  guard (!whole.isEmpty && (whole.head? ≠ some '0' || whole.length = 1))
  let (n, dropped) := takeDigits 0 whole
  if tail.isEmpty && dropped.isEmpty && !negative then
    return int n
  if tail.isEmpty && dropped.isEmpty && 0 < n && n ≤ Nat.pow 2 63 then
    return int (-n)
  let (fraction, exponent) ← splitTail tail
  let (significand, unused) := takeDigits n fraction
  let shift : Int := dropped.length - (fraction.length - unused.length : Nat)
  let x ← scaled significand (exponent + shift)
  return float (Decimal.signed negative x)

end ListView.Json
