import WatchExpr.Failure
import WatchExpr.Markdown
import WatchExpr.Text.Line
import WatchExpr.Verdict

/-!
# Many expressions at once

A batch is a text with one expression on each line; blank lines do not count.  A batch with no
expression, or with more than `maxBatch` of them, is turned down as a whole.  Otherwise every
expression has its verdict, in the order of the lines, and the report counts them and gives each a
row.  A line is judged as it stands, with its blanks, and shown without them.
-/

namespace WatchExpr

/-- The most expressions that a batch may hold. -/
def maxBatch : Nat := 500

/-- What becomes of a batch. -/
inductive Batch where
  /-- It holds no expression. -/
  | empty
  /-- It holds more expressions than are accepted. -/
  | tooMany (count : Nat)
  /-- The verdicts on its expressions, in order. -/
  | judged (verdicts : List Verdict)
  deriving DecidableEq, Repr

namespace Batch

/-- What becomes of a text with one expression on each line. -/
def ofText (s : List Char) : Batch :=
  let items := nonBlankLines s
  if items.isEmpty then .empty
  else if maxBatch < items.length then .tooMany items.length
  else .judged (items.map Verdict.ofText)

/-! ### The report -/

/-- The cells of the row for one verdict. -/
def cells (v : Verdict) : List (List Char) :=
  [Markdown.code (Markdown.cell (trim v.expression)), Markdown.strong v.status.toList,
    v.reason.code.toList]

/-- The number of editable expressions. -/
def editableCount (verdicts : List Verdict) : Nat := verdicts.countP Verdict.editable

/-- The rows that count the expressions. -/
def countRows (verdicts : List Verdict) : List (List (List Char)) :=
  [["Total expressions".toList, natText verdicts.length],
    ["Editable".toList, natText (editableCount verdicts)],
    ["Not editable".toList, natText (verdicts.length - editableCount verdicts)]]

/-- The lines of the report on a batch of verdicts. -/
def reportLines (verdicts : List Verdict) : List (List Char) :=
  [Markdown.heading 2 "Watch Editability".toList, []]
    ++ Markdown.table ["Metric".toList, "Count".toList] (countRows verdicts)
    ++ [[], Markdown.heading 3 "Details".toList, []]
    ++ Markdown.table ["Expression".toList, "Status".toList, "Reason".toList]
      (verdicts.map cells)

/-- The answer to a batch. -/
def render : Batch → List Char
  | .empty => "Error: No expressions given. Pass one watch expression per line.".toList
  | .tooMany count =>
    "Error: ".toList ++ natText count ++ " expressions given; at most ".toList ++ natText maxBatch
      ++ " are accepted per call.".toList
  | .judged verdicts => Markdown.ofLines (reportLines verdicts)

end Batch

/-- The answer to a batch that is given as a text. -/
def Report.batchText (s : List Char) : List Char := (Batch.ofText s).render

/-- The answer to a batch that is given as a value, which has to be a text. -/
def Report.batch (v : Value) : Except Failure (List Char) :=
  (v.asText .noLines).map Report.batchText

end WatchExpr
