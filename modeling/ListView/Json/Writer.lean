import ListView.Decimal.Layout
import ListView.Json.Basic

/-!
# Writing JSON

The compact form has no blanks; the indented form puts every item and field on
a line of its own, two blanks per level, and keeps empty containers closed.
-/

namespace ListView.Json

/-- From five places after the point to sixteen before it a double is written out, with a fraction;
beyond that with a signed exponent. -/
def numberLayout : Decimal.Layout := ⟨fun e => -5 ≤ e && e ≤ 15, true, .even⟩

def escapeChar (c : Char) : List Char :=
  match c with
  | '"' => ['\\', '"']
  | '\\' => ['\\', '\\']
  | '\x08' => ['\\', 'b']
  | '\t' => ['\\', 't']
  | '\n' => ['\\', 'n']
  | '\x0c' => ['\\', 'f']
  | '\r' => ['\\', 'r']
  | _ =>
    if c.toNat < 0x20 then
      let digits := Nat.toDigits 16 c.toNat
      ['\\', 'u'] ++ List.replicate (4 - digits.length) '0' ++ digits
    else [c]

def writeString (s : String) : String :=
  String.ofList ('"' :: s.toList.flatMap escapeChar ++ ['"'])

/-- The text of a value without parts. -/
def writeScalar : Json → String
  | null => "null"
  | bool b => if b then "true" else "false"
  | int n => toString n
  | float x => numberLayout.write x
  | string s => writeString s
  | array _ => "[]"
  | object _ => "\x7b\x7d"

mutual

def compact : Json → String
  | array items => "[" ++ compactItems items ++ "]"
  | object fields => "\x7b" ++ compactFields fields ++ "\x7d"
  | v => writeScalar v

def compactItems : List Json → String
  | [] => ""
  | [v] => compact v
  | v :: rest => compact v ++ "," ++ compactItems rest

def compactFields : List (String × Json) → String
  | [] => ""
  | [(k, v)] => writeString k ++ ":" ++ compact v
  | (k, v) :: rest => writeString k ++ ":" ++ compact v ++ "," ++ compactFields rest

end

def lineBreak (level : Nat) : String := "\n" ++ String.ofList (List.replicate (2 * level) ' ')

mutual

/-- The indented text of a value whose first line begins at `level`. -/
def indented (level : Nat) : Json → String
  | array (v :: rest) => "[" ++ indentedItems (level + 1) (v :: rest) ++ lineBreak level ++ "]"
  | object (f :: rest) =>
    "\x7b" ++ indentedFields (level + 1) (f :: rest) ++ lineBreak level ++ "\x7d"
  | v => writeScalar v

def indentedItems (level : Nat) : List Json → String
  | [] => ""
  | [v] => lineBreak level ++ indented level v
  | v :: rest => lineBreak level ++ indented level v ++ "," ++ indentedItems level rest

def indentedFields (level : Nat) : List (String × Json) → String
  | [] => ""
  | [(k, v)] => lineBreak level ++ writeString k ++ ": " ++ indented level v
  | (k, v) :: rest =>
    lineBreak level ++ writeString k ++ ": " ++ indented level v ++ "," ++ indentedFields level rest

end

def pretty (v : Json) : String := indented 0 v

end ListView.Json
