import WatchExpr.Markdown
import WatchExpr.Verdict

/-!
# The full answer

A verdict laid out as a table of its parts, with the reason in words below.
-/

namespace WatchExpr.Report

/-- A text of the user's as code in a cell. -/
def codeCell (s : List Char) : List Char := Markdown.code (Markdown.cell s)

/-- The six rows of the table. -/
def explanationRows (v : Verdict) : List (List (List Char)) :=
  [[Markdown.strong "Expression".toList, codeCell v.expression],
    [Markdown.strong "Base expression".toList, codeCell v.base],
    [Markdown.strong "Format suffix".toList, v.letter.elim Markdown.dash fun l => [l.toChar]],
    [Markdown.strong "Display format".toList,
      v.displayFormat.elim Markdown.dash fun f => f.name.toList],
    [Markdown.strong "Masked view".toList, v.masked.elim Markdown.dash codeCell],
    [Markdown.strong "Reason".toList, Markdown.code v.reason.code.toList]]

/-- The lines of the explanation. -/
def explanationLines (v : Verdict) : List (List Char) :=
  [Markdown.heading 2 ("Editability — ".toList ++ v.status.toList), []]
    ++ Markdown.table ["Field".toList, "Value".toList] (explanationRows v)
    ++ [[], v.detail.toList]

/-- The explanation of the verdict on `input`. -/
def explain (input : Scalar) : List Char :=
  Markdown.ofLines (explanationLines (classify (.scalar input)))

end WatchExpr.Report
