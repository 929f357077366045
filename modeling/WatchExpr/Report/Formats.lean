import WatchExpr.Format
import WatchExpr.Markdown

/-!
# The list of display hints

A table with each letter, after its comma, and the format it asks for.
-/

namespace WatchExpr.Report

/-- The cells of the row for one letter and its format. -/
def formatCells (letter : List Char) (f : DisplayFormat) : List (List Char) :=
  [Markdown.code (',' :: letter), f.name.toList]

/-- The lines of the table of the display hints. -/
def formatLines : List (List Char) :=
  Markdown.table ["Suffix".toList, "Display format".toList]
    (formatTable.map fun entry => formatCells entry.1 entry.2)

/-- The table of the display hints. -/
def formats : List Char := Markdown.ofLines formatLines

end WatchExpr.Report
