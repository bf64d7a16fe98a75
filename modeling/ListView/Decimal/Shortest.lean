import ListView.Decimal.Binary

/-!
# Shortest digits

The fewest decimal digits that still read back as the same double, and of those
the ones nearest to it. The numbers that read back as `m * 2 ^ q` form an
interval around it; the digits are looked for on one decimal grid after the
other, from one digit to seventeen.
-/

namespace ListView.Decimal

/-- The number `d.ddd * 10 ^ exponent` for the digits `dddd`, the first of which is not zero unless
it stands alone. -/
structure Digits where
  digits : List Char
  exponent : Int
  deriving DecidableEq, Repr

namespace Digits

def zero : Digits := ⟨['0'], 0⟩

def ofNat (n : Nat) (unit : Int) : Digits :=
  let all := Nat.toDigits 10 n
  let kept := (all.reverse.dropWhile (· = '0')).reverse
  ⟨kept, unit + all.length - 1⟩

end Digits

/-- Where a double half-way between two points of a grid goes. -/
inductive Tie where
  | even
  | up
  deriving DecidableEq, Repr

/-- Whether the upper neighbour of `below` wins a tie. -/
def Tie.takesUpper (tie : Tie) (below : Nat) : Bool := tie = .up || below % 2 = 1

/-- The numbers that round to a double, times `den`. -/
structure Rounding where
  low : Nat
  value : Nat
  high : Nat
  den : Nat
  closed : Bool

/-- The numbers that round to `mantissa * 2 ^ exponent`. Below a power of two the doubles lie twice
as close. -/
def Rounding.of (mantissa : Nat) (exponent : Int) : Rounding :=
  let up := Nat.pow 2 (exponent - 2).toNat
  let below := if mantissa = Nat.pow 2 52 && exponent > -1074 then 1 else 2
  { low := (4 * mantissa - below) * up
    value := 4 * mantissa * up
    high := (4 * mantissa + 2) * up
    den := Nat.pow 2 (2 - exponent).toNat
    closed := mantissa % 2 = 0 }

namespace Rounding

/-- Whether `n / den` rounds to the double. -/
def admits (r : Rounding) (n : Nat) : Bool :=
  if r.closed then r.low ≤ n && n ≤ r.high else r.low < n && n < r.high

/-- The exponent of the leading decimal digit of `num / den`. -/
def leadingDigit (num den : Nat) : Int :=
  if den ≤ num then (Nat.toDigits 10 (num / den)).length - 1
  else -((Nat.toDigits 10 ((den + num - 1) / num - 1)).length : Int)

/-- The point of the grid of multiples of `10 ^ unit` that rounds to the double, the nearer one when
both neighbours of the double do. -/
def onGrid (r : Rounding) (tie : Tie) (unit : Int) : Option Nat :=
  let step := r.den * Nat.pow 10 unit.toNat
  let lift := Nat.pow 10 (-unit).toNat
  let r := { r with low := r.low * lift, value := r.value * lift, high := r.high * lift }
  let below := r.value / step
  let above := below + 1
  match r.admits (below * step), r.admits (above * step) with
  | true, true =>
    let toBelow := r.value - below * step
    let toAbove := above * step - r.value
    if toAbove < toBelow || (toAbove = toBelow && tie.takesUpper below) then some above
    else some below
  | true, false => some below
  | false, true => some above
  | false, false => none

end Rounding

/-- The shortest digits of a finite double's magnitude. -/
def shortest (tie : Tie) (x : Float) : Digits :=
  let b := Binary.ofFloat x
  if b.mantissa = 0 then .zero
  else
    let r := Rounding.of b.mantissa b.exponent
    let top := Rounding.leadingDigit r.value r.den
    let found := (List.range 17).findSome? fun (n : Nat) =>
      (r.onGrid tie (top - n)).map (Digits.ofNat · (top - n))
    found.getD .zero

end ListView.Decimal
