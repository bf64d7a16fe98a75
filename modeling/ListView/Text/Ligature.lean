import ListView.Text.WidthTable

/-!
# Letters drawn as one

In some scripts a letter merges with the letters before it. Text is measured
from its end, so a ligature is known by the letter that ends it; of what comes
before, it is remembered how far it has been completed.
-/

namespace ListView.Text

/-- Columns of a character by itself. -/
def charColumns (c : Char) : Nat :=
  if c.toNat ≤ 0xA0 then 1
  else if c = '\u17D8' then 3
  else if zeroWidth.hasChar c then 0
  else if doubleWidth.hasChar c then 2
  else 1

/-- The end of a ligature, with what was already met before the letter that ends it. -/
inductive Ligature where
  /-- An Arabic alef, which merges with a lam. -/
  | alef
  /-- A Hebrew lamed, which merges with an alef if a joiner is between them. -/
  | lamed (joined : Bool)
  /-- A Buginese ya, which merges with a vowel and its letter if a joiner is between them. -/
  | ya (joined : Bool)
  | vowelAndYa
  /-- A Tifinagh consonant, which merges with another behind a joiner of either kind. -/
  | consonant (joined : Bool)
  | consonantJoiner
  /-- A Lisu tone letter that is drawn under another. -/
  | toneLetter
  | orkhonI
  /-- A Khmer letter that can stand under another. -/
  | coengLetter
  /-- Kirat Rai vowels, which are written together. -/
  | vowelE
  | vowelAi
  deriving DecidableEq, Repr

namespace Ligature

def inRange (c : Char) (lo hi : Nat) : Bool := lo ≤ c.toNat && c.toNat ≤ hi

def isAlef (c : Char) : Bool :=
  CodePoints.hasChar [(0x622, 0x623), (0x625, 0x625), (0x627, 0x627), (0x671, 0x673),
    (0x675, 0x675), (0x773, 0x774), (0x870, 0x882)] c

def isLam (c : Char) : Bool :=
  CodePoints.hasChar [(0x644, 0x644), (0x6B5, 0x6B8), (0x76A, 0x76A), (0x8A6, 0x8A6),
    (0x8C7, 0x8C7)] c

def isCoengLetter (c : Char) : Bool :=
  CodePoints.hasChar [(0x1780, 0x1782), (0x1784, 0x1787), (0x1789, 0x178C), (0x178E, 0x1793),
    (0x1795, 0x1798), (0x179B, 0x179D), (0x17A0, 0x17A0), (0x17A2, 0x17A2), (0x17A7, 0x17A7),
    (0x17AB, 0x17AC), (0x17AF, 0x17AF)] c

def isConsonant (c : Char) : Bool := inRange c 0x2D31 0x2D65 || c = '\u2D6F'

/-- Marks without a drawing of their own, which may stand within a ligature. -/
def isInvisible (c : Char) : Bool :=
  CodePoints.hasChar [(0x34F, 0x34F), (0x17B4, 0x17B5), (0x180B, 0x180D), (0x180F, 0x180F),
    (0xFE00, 0xFE0F), (0xE0100, 0xE01EF)] c

/-- Marks that may stand between a lam and an alef. -/
def isTransparent (c : Char) : Bool := charColumns c = 0 && !joinBreaking.hasChar c

/-- The ligatures that a letter can end. -/
def ending? (c : Char) : Option Ligature :=
  if c = '\u05DC' then some (lamed false)
  else if isAlef c then some alef
  else if isCoengLetter c then some coengLetter
  else if c = '\u1A10' then some (ya false)
  else if isConsonant c then some (consonant false)
  else if inRange c 0xA4FC 0xA4FD then some toneLetter
  else if c.toNat = 0x10C03 then some orkhonI
  else if c.toNat = 0x16D67 then some vowelE
  else if c.toNat = 0x16D68 then some vowelAi
  else none

def joined : Ligature → Ligature
  | lamed _ => lamed true
  | ya _ => ya true
  | consonant _ => consonant true
  | l => l

/-- Columns that a letter adds in front of the rest of its ligature, and what remains to be
completed; `none` if it does not belong to the ligature. -/
def extend? (l : Ligature) (c : Char) : Option (Int × Option Ligature) :=
  match l with
  | alef =>
    if isLam c then some (0, none) else if isTransparent c then some (0, some alef) else none
  | lamed true => if c = '\u05D0' then some (0, none) else none
  | ya true => if c = '\u1A17' then some (0, some vowelAndYa) else none
  | vowelAndYa => if c = '\u1A15' then some (0, none) else none
  | consonant joined =>
    if c = '\u2D7F' then some (1, some consonantJoiner)
    else if joined && isConsonant c then some (0, none)
    else none
  | consonantJoiner => if isConsonant c then some (-1, none) else none
  | toneLetter => if inRange c 0xA4F8 0xA4FB then some (0, none) else none
  | orkhonI => if c.toNat = 0x10C32 then some (0, none) else none
  | coengLetter => if c = '\u17D2' then some (-1, none) else none
  | vowelE =>
    if c.toNat = 0x16D63 || c.toNat = 0x16D69 then some (0, none)
    else if c.toNat = 0x16D67 then some (0, some vowelAi)
    else if c.toNat = 0x16D68 then some (1, some vowelE)
    else none
  | vowelAi => if c.toNat = 0x16D63 then some (0, none) else none
  | _ => none

/-- What a character adds in front of a ligature, and the ligature it leaves; joiners and invisible
marks leave it whole, except in Arabic, where a joiner ends it. -/
def before? (l : Ligature) (c : Char) : Option (Int × Option Ligature) :=
  if l = alef then l.extend? c
  else if c = '\u200D' then some (0, some l.joined)
  else if isInvisible c then some (0, some l)
  else l.extend? c

end Ligature

end ListView.Text
