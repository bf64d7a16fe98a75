/-!
# Quoted values

A value with blanks or quotes is written between double quotes, with a backslash
before each quote and backslash. `decode` takes a value as written: quoted text
without its quotes and escapes, any other text as it stands.
-/

namespace ListView.Quotation

def escape : List Char → List Char
  | [] => []
  | c :: rest => if c = '"' || c = '\\' then '\\' :: c :: escape rest else c :: escape rest

def encode (cs : List Char) : List Char := '"' :: escape cs ++ ['"']

/-- Drops each backslash and keeps the character after it. -/
def unescape : List Char → List Char
  | [] => []
  | '\\' :: c :: rest => c :: unescape rest
  | ['\\'] => []
  | c :: rest => c :: unescape rest

theorem unescape_escape (cs : List Char) : unescape (escape cs) = cs := by
  induction cs with
  | nil => rfl
  | cons c rest ih =>
    by_cases hq : c = '"'
    · simp [escape, hq, unescape, ih]
    · by_cases hb : c = '\\'
      · simp [escape, hb, unescape, ih]
      · simp [escape, hq, hb, unescape, ih]

/-- Whether the text ends in a backslash that escapes what would follow. -/
def endsEscaped (cs : List Char) : Bool :=
  (cs.reverse.takeWhile (· = '\\')).length % 2 = 1

/-- What stands between a quote at the start and an unescaped one at the end. -/
def inside? : List Char → Option (List Char)
  | '"' :: rest =>
    if rest.getLast? = some '"' && !endsEscaped rest.dropLast then some rest.dropLast else none
  | _ => none

def decode (cs : List Char) : List Char :=
  match inside? cs with
  | some inner => unescape inner
  | none => cs

end ListView.Quotation
