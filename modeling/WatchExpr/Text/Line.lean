import WatchExpr.Text.Blank

/-!
# Lines

A text falls into lines at every line break.  A carriage return with a line feed after it is one
break, and the break that ends a text begins no further line, so that the empty text has no lines.
-/

namespace WatchExpr

/-- The code points of the line breaks, in ascending order.  Each of them is a blank. -/
def lineBreakRanges : List CodeRange :=
  [⟨0x0A, 0x0D⟩, ⟨0x1C, 0x1E⟩, ⟨0x85, 0x85⟩, ⟨0x2028, 0x2029⟩]

/-- Whether `c` ends a line. -/
def isLineBreak (c : Char) : Bool := inRanges lineBreakRanges c

/-- Puts `c` at the start of the first line. -/
def consLine (c : Char) : List (List Char) → List (List Char)
  | [] => [[c]]
  | line :: rest => (c :: line) :: rest

/-- The lines of a text, in order, without their breaks. -/
def lines : List Char → List (List Char)
  | [] => []
  | '\r' :: '\n' :: rest => [] :: lines rest
  | c :: rest => if isLineBreak c then [] :: lines rest else consLine c (lines rest)

/-- The lines that hold a character other than a blank. -/
def nonBlankLines (s : List Char) : List (List Char) :=
  (lines s).filter fun line => !isBlankText line

@[simp] theorem lines_nil : lines [] = [] := by simp [lines]

/-- A line break is a blank, so trimming a text also takes off the breaks at its ends. -/
theorem isBlank_of_isLineBreak {c : Char} (h : isLineBreak c = true) : isBlank c = true := by
  simp only [isLineBreak, inRanges_iff, lineBreakRanges, List.mem_cons, List.not_mem_nil, or_false,
    exists_eq_or_imp, exists_eq_left] at h
  simp only [isBlank, inRanges_iff, blankRanges, List.mem_cons, List.not_mem_nil, or_false,
    exists_eq_or_imp, exists_eq_left]
  omega

end WatchExpr
