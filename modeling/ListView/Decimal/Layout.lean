import ListView.Decimal.Shortest

/-!
# Layout of a number

Where the point goes, whether a whole number keeps a fraction, and which
exponents are written as such.
-/

namespace ListView.Decimal

structure Layout where
  /-- The exponents that are written out in zeros. -/
  positional : Int → Bool
  /-- Whether a whole number ends in `.0`. -/
  wholeFraction : Bool
  tie : Tie

namespace Layout

def zeros (n : Nat) : List Char := List.replicate n '0'

def positionalText (layout : Layout) (d : Digits) : List Char :=
  if d.exponent < 0 then ['0', '.'] ++ zeros ((-d.exponent).toNat - 1) ++ d.digits
  else
    let places := d.exponent.toNat + 1
    let whole := d.digits.take places
    match d.digits.drop places with
    | [] =>
      whole ++ zeros (places - whole.length) ++ (if layout.wholeFraction then ['.', '0'] else [])
    | fraction => whole ++ '.' :: fraction

def exponentText (d : Digits) : List Char :=
  let fraction := d.digits.drop 1
  d.digits.take 1 ++ (if fraction.isEmpty then [] else '.' :: fraction) ++
    ['e', if d.exponent < 0 then '-' else '+'] ++ Nat.toDigits 10 d.exponent.natAbs

/-- The text of a finite double. -/
def write (layout : Layout) (x : Float) : String :=
  let d := shortest layout.tie x
  let body := if layout.positional d.exponent then layout.positionalText d else exponentText d
  String.ofList (if (Binary.ofFloat x).negative then '-' :: body else body)

end Layout

/-- The shortest digits without an exponent and without an empty fraction. -/
def plain : Layout := ⟨fun _ => true, false, .up⟩

end ListView.Decimal
