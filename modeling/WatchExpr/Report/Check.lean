import WatchExpr.Markdown
import WatchExpr.Verdict

/-!
# The short answer

One line on one expression: whether it is editable, the input as it was sent, and why.
-/

namespace WatchExpr.Report

/-- The one-line answer. -/
def check (input : Scalar) : List Char :=
  let v := classify (.scalar input)
  Markdown.strong v.status.toList ++ " — ".toList ++ Markdown.code input.plain ++ ": ".toList
    ++ v.detail.toList

end WatchExpr.Report
