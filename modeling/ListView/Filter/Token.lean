import ListView.Text.Blank

/-!
# Tokens of a filter text

Blanks separate tokens unless they stand in quotes. A quote opens a quoted
segment anywhere in a token; inside it a backslash keeps the next character from
closing it. Nothing but the separating blanks is dropped.
-/

namespace ListView.Token

/-- Where a scan stands with respect to quotes. -/
inductive Mode where
  | outside
  | quoted
  | escaped
  deriving DecidableEq, Repr

namespace Mode

def next : Mode → Char → Mode
  | outside, c => if c = '"' then quoted else outside
  | quoted, c => if c = '"' then outside else if c = '\\' then escaped else quoted
  | escaped, _ => quoted

/-- Whether the character separates tokens here. -/
def separates (m : Mode) (c : Char) : Bool := m == outside && Text.isBlank c

/-- The mode after a text. -/
def after (m : Mode) (cs : List Char) : Mode := cs.foldl next m

@[simp] theorem after_nil (m : Mode) : m.after [] = m := rfl

@[simp] theorem after_cons (m : Mode) (c : Char) (cs : List Char) :
    m.after (c :: cs) = (m.next c).after cs := rfl

theorem after_append (m : Mode) (cs ds : List Char) :
    m.after (cs ++ ds) = (m.after cs).after ds := by simp [after]

theorem next_of_separates {m : Mode} {c : Char} (h : m.separates c = true) :
    m.next c = outside := by
  simp only [separates, Bool.and_eq_true, beq_iff_eq] at h
  obtain ⟨rfl, hb⟩ := h
  have : c ≠ '"' := by rintro rfl; revert hb; decide
  simp [next, this]

end Mode

/-- Tokens of the rest of a text; `current` is the token being read, in reverse. -/
def scan (m : Mode) (current : List Char) : List Char → List (List Char)
  | [] => if current.isEmpty then [] else [current.reverse]
  | c :: rest =>
    if m.separates c then
      (if current.isEmpty then [] else [current.reverse]) ++ scan .outside [] rest
    else scan (m.next c) (c :: current) rest

def tokens (cs : List Char) : List (List Char) := scan .outside [] cs

@[simp] theorem tokens_nil : tokens [] = [] := rfl

end ListView.Token
