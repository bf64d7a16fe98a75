import ListView.Text.CaseTable

/-!
# Lower case

Full lower-casing: one character may become two, and a capital sigma becomes a
final one at the end of a word.
-/

namespace ListView.Text

namespace CaseRun

def covers (run : CaseRun) (n : Nat) : Bool :=
  run.first ≤ n && n ≤ run.last && (n - run.first) % run.step == 0

def lower (run : CaseRun) (n : Nat) : Nat := run.image + (n - run.first)

end CaseRun

/-- The code point's lower-case form by the first run that covers it. -/
def lowerCode (n : Nat) : Nat :=
  match lowering.find? (·.covers n) with
  | some run => run.lower n
  | none => n

/-- The lower-case form of a character that stands alone. -/
def lowerChar (c : Char) : List Char :=
  if c = 'İ' then ['i', '\u0307'] else [Char.ofNat (lowerCode c.toNat)]

/-- Whether the first character that can carry case is a cased one. -/
def startsCased (cs : List Char) : Bool :=
  match cs.dropWhile caseIgnorable.hasChar with
  | [] => false
  | c :: _ => cased.hasChar c

/-- A sigma ends a word when a cased character comes before it and none after. -/
def lowerSigma (before after : List Char) : Char :=
  if startsCased before && !startsCased after then 'ς' else 'σ'

/-- Lower-cases `cs`; `before` is what precedes it, nearest first. -/
def lowerAfter (before : List Char) : List Char → List Char
  | [] => []
  | c :: rest =>
    (if c = 'Σ' then [lowerSigma before rest] else lowerChar c) ++ lowerAfter (c :: before) rest

def lower (cs : List Char) : List Char := lowerAfter [] cs

@[simp] theorem lower_nil : lower [] = [] := rfl

def lowerText (s : String) : String := String.ofList (lower s.toList)

end ListView.Text
