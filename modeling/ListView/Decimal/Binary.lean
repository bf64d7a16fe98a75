/-!
# Binary floating point, exactly

A finite double is a signed `mantissa * 2 ^ exponent`. Everything here is exact
natural-number arithmetic on that form: the integer part of a double, and the
double nearest to a ratio or to a decimal number.
-/

namespace ListView.Decimal

structure Binary where
  negative : Bool
  mantissa : Nat
  exponent : Int
  deriving DecidableEq, Repr

/-- The double's sign, mantissa and exponent; meaningful when it is finite. -/
def Binary.ofFloat (x : Float) : Binary :=
  let bits : Nat := x.toBits.toNat
  let biased : Nat := bits / Nat.pow 2 52 % Nat.pow 2 11
  let fraction : Nat := bits % Nat.pow 2 52
  if biased = 0 then ⟨Nat.pow 2 63 ≤ bits, fraction, -1074⟩
  else ⟨Nat.pow 2 63 ≤ bits, Nat.pow 2 52 + fraction, biased - 1075⟩

/-- `n * 2 ^ e`, without its fraction when `e` is negative. -/
def scale (n : Nat) (e : Int) : Nat :=
  if 0 ≤ e then n * Nat.pow 2 e.toNat else n / Nat.pow 2 (-e).toNat

/-- The double without its fraction. -/
def truncate (x : Float) : Int :=
  let b := Binary.ofFloat x
  let magnitude : Int := scale b.mantissa b.exponent
  if b.negative then -magnitude else magnitude

/-- `num / den` rounded to a whole number, a half going to the even neighbour. -/
def roundHalfEven (num den : Nat) : Nat :=
  let q := num / den
  let r := num % den
  if 2 * r < den || (2 * r = den && q % 2 = 0) then q else q + 1

/-- The exponent of the leading bit of `num / den`. -/
def leadingBit (num den : Nat) : Int :=
  let e : Int := Nat.log2 num - Nat.log2 den
  if den * Nat.pow 2 e.toNat ≤ num * Nat.pow 2 (-e).toNat then e else e - 1

/-- The bits of the double nearest to `num / den`, or `none` when that is beyond the largest. -/
def nearestBits (num den : Nat) : Option UInt64 :=
  if num = 0 then some 0
  else
    let unit := max (leadingBit num den - 52) (-1074)
    let significand := roundHalfEven (num * Nat.pow 2 (-unit).toNat) (den * Nat.pow 2 unit.toNat)
    let bits := (unit + 1074).toNat * Nat.pow 2 52 + significand
    if bits < 0x7FF0000000000000 then some (UInt64.ofNat bits) else none

/-- The double nearest to `digits * 10 ^ exponent`, or `none` when that is beyond the largest.
Outside the bounds tested first the answer does not depend on the digits. -/
def nearest (digits : Nat) (exponent : Int) : Option Float :=
  let magnitude : Int := (Nat.toDigits 10 digits).length + exponent
  if digits = 0 || magnitude < -330 then some 0
  else if magnitude > 310 then none
  else
    let num := digits * Nat.pow 10 exponent.toNat
    (nearestBits num (Nat.pow 10 (-exponent).toNat)).map Float.ofBits

def signed (negative : Bool) (x : Float) : Float := if negative then -x else x

end ListView.Decimal
