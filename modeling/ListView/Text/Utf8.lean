/-!
# UTF-8

Bytes read as text, whatever they are: where no character can be made of them a
replacement character stands, one for each longest start of a character.
-/

namespace ListView.Text

def replacement : Char := '\uFFFD'

/-- A character of which some bytes are read: its bits so far, the bounds of the next byte, and how
many follow that one. -/
structure Unfinished where
  bits : Nat
  low : Nat
  high : Nat
  more : Nat
  deriving DecidableEq, Repr

/-- What a first byte begins, unless it is a character or no first byte. The bounds of the second
byte keep out longer spellings than needed, surrogates and what lies beyond the last plane. -/
def Unfinished.begin? (b : Nat) : Option Unfinished :=
  if b < 0xC2 then none
  else if b < 0xE0 then some ⟨b - 0xC0, 0x80, 0xBF, 0⟩
  else if b < 0xF0 then
    some ⟨b - 0xE0, if b = 0xE0 then 0xA0 else 0x80, if b = 0xED then 0x9F else 0xBF, 1⟩
  else if b < 0xF5 then
    some ⟨b - 0xF0, if b = 0xF0 then 0x90 else 0x80, if b = 0xF4 then 0x8F else 0xBF, 2⟩
  else none

/-- Reads a byte between characters. -/
def firstByte (b : Nat) : List Char × Option Unfinished :=
  if b < 0x80 then ([Char.ofNat b], none)
  else match Unfinished.begin? b with
    | some u => ([], some u)
    | none => ([replacement], none)

/-- Reads a byte within a character; one that does not fit begins anew. -/
def Unfinished.nextByte (u : Unfinished) (b : Nat) : List Char × Option Unfinished :=
  if u.low ≤ b && b ≤ u.high then
    let bits := 64 * u.bits + (b - 0x80)
    match u.more with
    | 0 => ([Char.ofNat bits], none)
    | more + 1 => ([], some ⟨bits, 0x80, 0xBF, more⟩)
  else
    let (chars, next) := firstByte b
    (replacement :: chars, next)

/-- The text of bytes, with a character of which some bytes are read. -/
def charsFrom : Option Unfinished → List UInt8 → List Char
  | none, [] => []
  | some _, [] => [replacement]
  | unfinished, b :: bytes =>
    let (chars, next) := match unfinished with
      | none => firstByte b.toNat
      | some u => u.nextByte b.toNat
    chars ++ charsFrom next bytes

def charsOfBytes (bytes : ByteArray) : List Char := charsFrom none bytes.toList

/-- The text without a mark of byte order in front. -/
def withoutMark : List Char → List Char
  | '\uFEFF' :: cs => cs
  | cs => cs

end ListView.Text
