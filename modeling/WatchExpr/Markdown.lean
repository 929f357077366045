/-!
# Markdown

The few forms of Markdown that the reports are made of.  A text is a list of lines, each of which
is ended by a line feed (`ofLines`).  In a cell of a table a bar would end the cell and a line feed
the row, so the one is written after a backslash and the other becomes a space.
-/

namespace WatchExpr.Markdown

/-- Every line with a line feed after it. -/
def ofLines (lines : List (List Char)) : List Char := lines.flatMap fun line => line ++ ['\n']

/-- How a character is written in a cell of a table. -/
def cellChar (c : Char) : List Char :=
  if c = '|' then ['\\', '|'] else if c = '\n' then [' '] else [c]

/-- A text as the content of a cell. -/
def cell (s : List Char) : List Char := s.flatMap cellChar

/-- A text as code. -/
def code (s : List Char) : List Char := '\x60' :: (s ++ ['\x60'])

/-- A text in strong type. -/
def strong (s : List Char) : List Char := ['*', '*'] ++ s ++ ['*', '*']

/-- What is written where there is nothing to say. -/
def dash : List Char := ['—']

/-- A heading of the given level. -/
def heading (level : Nat) (s : List Char) : List Char := List.replicate level '#' ++ ' ' :: s

/-- A row of a table; the cells are written as they are. -/
def row (cells : List (List Char)) : List Char :=
  '|' :: cells.flatMap fun c => ' ' :: (c ++ [' ', '|'])

/-- The line under the titles of a table: below each title, as many hyphens as its cell is wide. -/
def ruler (titles : List (List Char)) : List Char :=
  '|' :: titles.flatMap fun t => List.replicate (t.length + 2) '-' ++ ['|']

/-- The lines of a table. -/
def table (titles : List (List Char)) (rows : List (List (List Char))) : List (List Char) :=
  row titles :: ruler titles :: rows.map row

@[simp] theorem cell_nil : cell [] = [] := rfl

@[simp] theorem cell_cons (c : Char) (s : List Char) : cell (c :: s) = cellChar c ++ cell s := rfl

@[simp] theorem cell_append (s t : List Char) : cell (s ++ t) = cell s ++ cell t := by
  simp [cell]

@[simp] theorem ofLines_nil : ofLines [] = [] := rfl

@[simp] theorem ofLines_cons (line : List Char) (rest : List (List Char)) :
    ofLines (line :: rest) = line ++ '\n' :: ofLines rest := by
  simp [ofLines]

/-- What is written for a character in a cell is no line feed. -/
theorem newline_notMem_cellChar (c : Char) : '\n' ∉ cellChar c := by
  unfold cellChar
  split
  · decide
  · split
    · decide
    · next h => simpa using Ne.symm h

/-- A cell holds no line feed, so the row it stands in is one line. -/
theorem newline_notMem_cell (s : List Char) : '\n' ∉ cell s := by
  simp [cell, newline_notMem_cellChar]

end WatchExpr.Markdown
