import ListView.Decimal.Layout
import ListView.Decimal.Reader
import ListView.Text.CodePoints
import ListView.Toml.DateTime

/-!
# TOML scalars

The values that are written as one word: flags, whole and decimal numbers with
underscores between digits, dates and times. The answer is the value's plain
text.
-/

namespace ListView.Toml.Scalar

/-- The digits of a group, if underscores stand only between digits. -/
def ungroup? (isDigit : Char → Bool) : List Char → Option (List Char)
  | [] => none
  | [c] => if isDigit c then some [c] else none
  | c :: '_' :: rest =>
    if isDigit c then (ungroup? isDigit rest).map (c :: ·) else none
  | c :: rest => if isDigit c then (ungroup? isDigit rest).map (c :: ·) else none

def isHexDigit (c : Char) : Bool := (Text.hexValue c).isSome

def isOctalDigit (c : Char) : Bool := '0' ≤ c && c ≤ '7'

def isBinaryDigit (c : Char) : Bool := c = '0' || c = '1'

def inBase (base : Nat) (digits : List Char) : Nat :=
  digits.foldl (fun n c => base * n + (Text.hexValue c).getD 0) 0

def int64Text? (n : Int) : Option String :=
  if Decimal.minInt ≤ n && n ≤ Decimal.maxInt then some (toString n) else none

/-- The digits of a decimal number's whole part, which has no leading zero. -/
def whole? (cs : List Char) : Option (List Char) := do
  let digits ← ungroup? Char.isDigit cs
  guard (digits.length = 1 || digits.head? ≠ some '0')
  return digits

def integer? : List Char → Option String
  | '0' :: 'x' :: rest => do int64Text? (inBase 16 (← ungroup? isHexDigit rest))
  | '0' :: 'o' :: rest => do int64Text? (inBase 8 (← ungroup? isOctalDigit rest))
  | '0' :: 'b' :: rest => do int64Text? (inBase 2 (← ungroup? isBinaryDigit rest))
  | cs => do
    let (negative, rest) := Decimal.takeSign cs
    int64Text? (Decimal.signedValue negative (← whole? rest))

def isExponentMark (c : Char) : Bool := c = 'e' || c = 'E'

/-- The point and the digits after it, if there is a point. -/
def fraction? : List Char → Option (List Char)
  | [] => some []
  | '.' :: digits => (ungroup? Char.isDigit digits).map ('.' :: ·)
  | _ => none

/-- The mark of an exponent, its sign and its digits, if there is a mark. -/
def exponent? : List Char → Option (List Char)
  | [] => some []
  | mark :: rest =>
    let (negative, digits) := Decimal.takeSign rest
    (ungroup? Char.isDigit digits).map fun digits =>
      mark :: (if negative then ['-'] else []) ++ digits

/-- The part of a number after its whole digits, without underscores. -/
def decimals? (cs : List Char) : Option (List Char) := do
  guard (!cs.isEmpty)
  let fraction ← fraction? (cs.takeWhile (!isExponentMark ·))
  let exponent ← exponent? (cs.dropWhile (!isExponentMark ·))
  return fraction ++ exponent

def float? (cs : List Char) : Option String := do
  let (negative, rest) := Decimal.takeSign cs
  if rest = ['i', 'n', 'f'] then return if negative then "-inf" else "inf"
  if rest = ['n', 'a', 'n'] then return "NaN"
  let isWhole (c : Char) : Bool := c ≠ '.' && !isExponentMark c
  let whole ← whole? (rest.takeWhile isWhole)
  let decimals ← decimals? (rest.dropWhile isWhole)
  let x ← Decimal.readFloat (whole ++ decimals)
  return Decimal.plain.write (Decimal.signed negative x)

/-- A word as a value. -/
def read? (word : List Char) : Option String :=
  if word = ['t', 'r', 'u', 'e'] then some "true"
  else if word = ['f', 'a', 'l', 's', 'e'] then some "false"
  else integer? word <|> float? word <|> (DateTime.read? word).map DateTime.text

end ListView.Toml.Scalar
