import ListView.Json.Number
import ListView.Text.CodePoints

/-!
# JSON tokens

The text is scanned one character at a time. A word is a run of characters up
to the next blank, quote or punctuation mark; it is read as a literal when it
ends.
-/

namespace ListView.Json

inductive Token where
  | opening (isArray : Bool)
  | closing (isArray : Bool)
  | comma
  | colon
  | string (s : String)
  | value (v : Json)

/-- Where a scan stands. Collected characters are in reverse. -/
inductive Scan where
  | gap
  | word (chars : List Char)
  | text (chars : List Char)
  | escape (chars : List Char)
  /-- Inside `\u`: the digits seen, and the leading half of a pair if one is open. -/
  | code (chars : List Char) (lead : Option Nat) (digits : List Char)
  /-- After the leading half of a pair: nothing yet, or the backslash of the other half. -/
  | pair (chars : List Char) (lead : Nat) (backslash : Bool)

namespace Token

def punctuation : Char → Option Token
  | '[' => some (.opening true)
  | ']' => some (.closing true)
  | '{' => some (.opening false)
  | '}' => some (.closing false)
  | ',' => some .comma
  | ':' => some .colon
  | _ => none

def isGap (c : Char) : Bool := c = ' ' || c = '\n' || c = '\t' || c = '\r'

def readWord (word : List Char) : Option Token :=
  if word = ['n', 'u', 'l', 'l'] then some (.value .null)
  else if word = ['t', 'r', 'u', 'e'] then some (.value (.bool true))
  else if word = ['f', 'a', 'l', 's', 'e'] then some (.value (.bool false))
  else (readNumber word).map .value

def simpleEscape : Char → Option Char
  | '"' => some '"'
  | '\\' => some '\\'
  | '/' => some '/'
  | 'b' => some '\x08'
  | 'f' => some '\x0c'
  | 'n' => some '\n'
  | 'r' => some '\r'
  | 't' => some '\t'
  | _ => none

/-- What follows the four digits of a `\u` escape. Halves of a pair must come in order. -/
def finishCode (chars : List Char) (lead : Option Nat) (unit : Nat) : Option Scan :=
  match lead with
  | some high =>
    if 0xDC00 ≤ unit && unit ≤ 0xDFFF then
      some (.text (Char.ofNat (0x10000 + (high - 0xD800) * 0x400 + (unit - 0xDC00)) :: chars))
    else none
  | none =>
    if 0xDC00 ≤ unit && unit ≤ 0xDFFF then none
    else if 0xD800 ≤ unit && unit ≤ 0xDBFF then some (.pair chars unit false)
    else some (.text (Char.ofNat unit :: chars))

/-- A character between tokens. -/
def begin (c : Char) (found : List Token) : Option (Scan × List Token) :=
  if isGap c then some (.gap, found)
  else if c = '"' then some (.text [], found)
  else match punctuation c with
    | some t => some (.gap, t :: found)
    | none => some (.word [c], found)

def step : Scan × List Token → Char → Option (Scan × List Token)
  | (.gap, found), c => begin c found
  | (.word chars, found), c =>
    if isGap c || c = '"' || (punctuation c).isSome then do
      let t ← readWord chars.reverse
      begin c (t :: found)
    else some (.word (c :: chars), found)
  | (.text chars, found), c =>
    if c = '"' then some (.gap, .string (String.ofList chars.reverse) :: found)
    else if c = '\\' then some (.escape chars, found)
    else if c.toNat < 0x20 then none
    else some (.text (c :: chars), found)
  | (.escape chars, found), c =>
    if c = 'u' then some (.code chars none [], found)
    else (simpleEscape c).map fun e => (.text (e :: chars), found)
  | (.code chars lead digits, found), c =>
    if digits.length < 3 then some (.code chars lead (c :: digits), found)
    else do
      let unit ← Text.hexNumber (c :: digits).reverse
      let scan ← finishCode chars lead unit
      return (scan, found)
  | (.pair chars lead backslash, found), c =>
    if !backslash then if c = '\\' then some (.pair chars lead true, found) else none
    else if c = 'u' then some (.code chars (some lead) [], found)
    else none

/-- The tokens of a text, if it ends between two of them. -/
def scan (cs : List Char) : Option (List Token) := do
  let (last, found) ← cs.foldlM step (.gap, [])
  match last with
  | .gap => return found.reverse
  | .word chars => return ((← readWord chars.reverse) :: found).reverse
  | _ => none

end Token

end ListView.Json
