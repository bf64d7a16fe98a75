import ListView.Text.Blank
import ListView.Text.CodePoints
import ListView.Text.Utf8
import ListView.Toml.Document
import ListView.Toml.Scalar

/-!
# Reading TOML

A document is read line by line: comments, table headers, and keys with values.
Readers take the characters before them and leave the rest; those that recur
are bounded by the length of the document.
-/

namespace ListView.Toml

abbrev Reader := StateT (List Char) Option

namespace Reader

def literal (text : List Char) : Reader Unit := do
  let cs ← get
  guard (text.isPrefixOf cs)
  set (cs.drop text.length)

/-- Whether the text comes next. -/
def at? (text : List Char) : Reader Bool := return text.isPrefixOf (← get)

def takeWhile (p : Char → Bool) : Reader (List Char) := do
  let cs ← get
  set (cs.dropWhile p)
  return cs.takeWhile p

def spaces : Reader Unit := discard (takeWhile Text.isSpace)

def isControl (c : Char) : Bool := (c.toNat < 0x20 && c ≠ '\t') || c.toNat = 0x7F

def newline : Reader Unit := literal ['\n'] <|> literal ['\r', '\n']

def comment : Reader Unit := do
  literal ['#']
  discard (takeWhile (!isControl ·))

def optionalComment : Reader Unit := comment <|> pure ()

/-- The end of a line: blanks, perhaps a comment, and a line break or the end of the text. -/
def lineEnd : Reader Unit := do
  spaces
  optionalComment
  if (← get).isEmpty then return
  newline

/-- Blanks, line breaks and comments, at most `fuel` of them. -/
def skipLines : Nat → Reader Unit
  | 0 => pure ()
  | fuel + 1 => do
    spaces
    (do newline <|> (do comment; newline); skipLines fuel) <|> pure ()

/-! ## Strings -/

def isScalarCode (n : Nat) : Bool := n < 0xD800 || (0xDFFF < n && n < 0x110000)

def hexCode (digits : Nat) : Reader Char := do
  let cs ← get
  let taken := cs.take digits
  guard (taken.length = digits)
  let n ← Text.hexNumber taken
  guard (isScalarCode n)
  set (cs.drop digits)
  return Char.ofNat n

def simpleEscape : Char → Option Char
  | 'b' => some '\x08'
  | 't' => some '\t'
  | 'n' => some '\n'
  | 'f' => some '\x0c'
  | 'r' => some '\r'
  | 'e' => some '\x1b'
  | '"' => some '"'
  | '\\' => some '\\'
  | _ => none

/-- What follows a backslash. -/
def escape : Reader Char := do
  let c :: rest ← get | failure
  set rest
  if c = 'x' then hexCode 2
  else if c = 'u' then hexCode 4
  else if c = 'U' then hexCode 8
  else simpleEscape c

/-- The rest of a string on one line, after its opening quote. -/
def lineString (quote : Char) (escapes : Bool) : Nat → Reader (List Char)
  | 0 => failure
  | fuel + 1 => do
    let c :: rest ← get | failure
    set rest
    if c = quote then return []
    if c = '\\' && escapes then
      let e ← escape
      return e :: (← lineString quote escapes fuel)
    guard (!isControl c)
    return c :: (← lineString quote escapes fuel)

/-- Blanks and line breaks, at most `fuel` of them. -/
def emptyLines : Nat → Reader Unit
  | 0 => pure ()
  | fuel + 1 => do
    spaces
    (do newline; emptyLines fuel) <|> pure ()

/-- A backslash at the end of a line: it and all blanks up to the next text are dropped. -/
def lineContinuation (fuel : Nat) : Reader Unit := do
  spaces
  newline
  emptyLines fuel

/-- The rest of a string over several lines, after its opening quotes. Of more than three quotes at
its end the first one or two belong to it. -/
def blockString (quote : Char) (escapes : Bool) : Nat → Reader (List Char)
  | 0 => failure
  | fuel + 1 => do
    if ← at? [quote, quote, quote] then
      let cs ← get
      let extra := min 2 ((cs.drop 3).takeWhile (· = quote)).length
      set (cs.drop (3 + extra))
      return List.replicate extra quote
    if ← at? ['\r', '\n'] then
      literal ['\r', '\n']
      return '\r' :: '\n' :: (← blockString quote escapes fuel)
    let c :: rest ← get | failure
    set rest
    if c = '\\' && escapes then
      (do lineContinuation fuel; blockString quote escapes fuel) <|>
        (do let e ← escape; return e :: (← blockString quote escapes fuel))
    else
      guard (!isControl c || c = '\n')
      return c :: (← blockString quote escapes fuel)

def quotedString (quote : Char) (escapes : Bool) (fuel : Nat) : Reader String := do
  literal [quote]
  return String.ofList (← lineString quote escapes fuel)

def quotedBlock (quote : Char) (escapes : Bool) (fuel : Nat) : Reader String := do
  literal [quote, quote, quote]
  newline <|> pure ()
  return String.ofList (← blockString quote escapes fuel)

/-! ## Keys -/

def isBareKeyChar (c : Char) : Bool := c.isAlphanum || c = '_' || c = '-'

def simpleKey (fuel : Nat) : Reader String := do
  if ← at? ['"'] then quotedString '"' true fuel
  else if ← at? ['\''] then quotedString '\'' false fuel
  else
    let bare ← takeWhile isBareKeyChar
    guard (!bare.isEmpty)
    return String.ofList bare

/-- Keys with points between them. -/
def dottedKey : Nat → Reader (List String)
  | 0 => failure
  | fuel + 1 => do
    spaces
    let key ← simpleKey fuel
    spaces
    if ← at? ['.'] then
      literal ['.']
      return key :: (← dottedKey fuel)
    else return [key]

/-- How many keys may be joined by points, and how deep arrays and inline tables may lie. -/
def maxDepth : Nat := 80

def keyPath (fuel : Nat) : Reader (List String) := do
  let keys ← dottedKey fuel
  guard (keys.length ≤ maxDepth)
  return keys

/-! ## Values -/

def isWordChar (c : Char) : Bool :=
  c.isAlphanum || c = '_' || c = '+' || c = '-' || c = '.' || c = ':'

/-- A word; a date takes the time after one blank with it. -/
def word : Reader (List Char) := do
  let first ← takeWhile isWordChar
  let ' ' :: c :: rest ← get | return first
  if c.isDigit && ((DateTime.readDate first).any fun (_, left) => left.isEmpty) then
    set (c :: rest)
    return first ++ ' ' :: (← takeWhile isWordChar)
  else return first

/-- What opens a value that holds others, which takes a level of depth. -/
def opening (mark : Char) (depth : Nat) : Reader Nat := do
  literal [mark]
  guard (0 < depth)
  return depth - 1

mutual

/-- A value with at most `depth` arrays and inline tables in one another. -/
def value (depth : Nat) : Nat → Reader Item
  | 0 => failure
  | fuel + 1 => do
    if ← at? ['"', '"', '"'] then return .scalar (← quotedBlock '"' true fuel)
    else if ← at? ['\'', '\'', '\''] then return .scalar (← quotedBlock '\'' false fuel)
    else if ← at? ['"'] then return .scalar (← quotedString '"' true fuel)
    else if ← at? ['\''] then return .scalar (← quotedString '\'' false fuel)
    else if ← at? ['['] then
      arrayItems (← opening '[' depth) fuel
      return .closed
    else if ← at? ['\x7b'] then
      inlineFields (← opening '\x7b' depth) fuel []
      return .closed
    else return .scalar (← Scalar.read? (← word))

/-- The items of an array up to its end; a comma may stand after the last. -/
def arrayItems (depth : Nat) : Nat → Reader Unit
  | 0 => failure
  | fuel + 1 => do
    skipLines fuel
    if ← at? [']'] then literal [']']
    else
      discard (value depth fuel)
      skipLines fuel
      if ← at? [','] then
        literal [',']
        arrayItems depth fuel
      else literal [']']

/-- The fields of an inline table up to its end; a comma may stand after the last. -/
def inlineFields (depth : Nat) : Nat → Entries → Reader Unit
  | 0, _ => failure
  | fuel + 1, entries => do
    skipLines fuel
    if ← at? ['\x7d'] then literal ['\x7d']
    else
      let keys ← keyPath fuel
      skipLines fuel
      literal ['=']
      skipLines fuel
      let item ← value depth fuel
      let entries ← Entries.put keys item entries
      skipLines fuel
      if ← at? [','] then
        literal [',']
        inlineFields depth fuel entries
      else literal ['\x7d']

end

/-! ## Lines -/

def header (fuel : Nat) (d : Document) : Reader Document := do
  let repeated ← at? ['[', '[']
  literal (if repeated then ['[', '['] else ['['])
  let path ← keyPath fuel
  literal (if repeated then [']', ']'] else [']'])
  d.header path repeated

def keyValue (fuel : Nat) (d : Document) : Reader Document := do
  let keys ← keyPath fuel
  literal ['=']
  spaces
  let item ← value maxDepth fuel
  d.put keys item

def isLineBreak (c : Char) : Bool := c = '\n' || c = '\r'

/-- What a line adds to the document; an empty line adds nothing. -/
def line (fuel : Nat) (d : Document) : Reader Document := do
  spaces
  match (← get).head? with
  | none => return d
  | some '[' => header fuel d
  | some c => if c = '#' || isLineBreak c then return d else keyValue fuel d

def lines : Nat → Document → Reader Document
  | 0, d => return d
  | fuel + 1, d => do
    if (← get).isEmpty then return d
    let d ← line fuel d
    lineEnd
    lines fuel d

end Reader

/-- The entries of a document, which may begin with a mark of byte order. -/
def read? (cs : List Char) : Option Entries :=
  let cs := Text.withoutMark cs
  ((Reader.lines (cs.length + 1) .empty).run' cs).map (·.entries)

end ListView.Toml
