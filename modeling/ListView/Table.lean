import ListView.OutputFormat
import ListView.Text.Width

/-!
# Tables

A header and rows of texts, drawn with a rounded frame, as a Markdown table, or
as lines of values between pipes. A cell may hold several lines; its row is as
tall as the tallest cell. A text that is too long for a cell is cut.
-/

namespace ListView

namespace Text

def ellipsis : List Char := ['.', '.', '.']

/-- At most `limit` characters; a text that is cut ends in three dots, even where they do not
fit. -/
def truncate (limit : Nat) (s : String) : String :=
  if s.toList.length ≤ limit then s
  else String.ofList (s.toList.take (limit - ellipsis.length) ++ ellipsis)

end Text

structure Table where
  header : List String
  rows : List (List String)

namespace Table

def linesOf : List Char → List (List Char)
  | [] => [[]]
  | '\n' :: rest => [] :: linesOf rest
  | c :: rest => match linesOf rest with
    | line :: lines => (c :: line) :: lines
    | [] => [[c]]

/-- The lines of each cell of a row. -/
abbrev Cells := List (List (List Char))

def cells (row : List String) : Cells := row.map fun cell => linesOf cell.toList

def cellWidth (cell : List (List Char)) : Nat := (cell.map Text.columns).foldl max 0

/-- The width of each column over all rows. -/
def widths (rows : List Cells) : List Nat :=
  rows.foldl (fun acc row => acc.zipWith max (row.map cellWidth))
    (List.replicate (rows.headD []).length 0)

def pad (width : Nat) (line : List Char) : List Char :=
  ' ' :: line ++ List.replicate (width - Text.columns line) ' ' ++ [' ']

/-- The marks of a frame: of a horizontal line its left end, its dash, its crossings and its right
end. -/
structure Rule where
  left : Char
  dash : Char
  cross : Char
  right : Char

structure Style where
  top : Option Rule
  separator : Rule
  bottom : Option Rule
  upright : Char

namespace Style

def rounded : Style where
  top := some ⟨'╭', '─', '┬', '╮'⟩
  separator := ⟨'├', '─', '┼', '┤'⟩
  bottom := some ⟨'╰', '─', '┴', '╯'⟩
  upright := '│'

def markdown : Style where
  top := none
  separator := ⟨'|', '-', '|', '|'⟩
  bottom := none
  upright := '|'

end Style

def Rule.draw (rule : Rule) (widths : List Nat) : List Char :=
  rule.left :: [rule.cross].intercalate (widths.map fun w => List.replicate (w + 2) rule.dash) ++
    [rule.right]

/-- The lines of one row. -/
def drawRow (style : Style) (widths : List Nat) (row : Cells) : List (List Char) :=
  let height := (row.map List.length).foldl max 0
  (List.range height).map fun i =>
    style.upright ::
      [style.upright].intercalate (widths.zipWith (fun w cell => pad w (cell.getD i [])) row) ++
      [style.upright]

/-- A table without rows ends with the line under its header. -/
def draw (t : Table) (style : Style) : String :=
  let header := cells t.header
  let rows := t.rows.map cells
  let widths := widths (header :: rows)
  let rule (r : Option Rule) : List (List Char) := (r.map (·.draw widths)).toList
  let lines := rule style.top ++ drawRow style widths header ++ [style.separator.draw widths] ++
    rows.flatMap (drawRow style widths) ++ (if rows.isEmpty then [] else rule style.bottom)
  String.ofList (['\n'].intercalate lines)

/-- Values between pipes, a line per row under the header. -/
def psv (t : Table) : String := "\n".intercalate ((t.header :: t.rows).map "|".intercalate)

end Table

end ListView
