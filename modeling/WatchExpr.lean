import WatchExpr.Call
import WatchExpr.Failure
import WatchExpr.Format
import WatchExpr.Literal
import WatchExpr.Log
import WatchExpr.Main
import WatchExpr.Markdown
import WatchExpr.Operand
import WatchExpr.Operator
import WatchExpr.Proofs.AccessChain
import WatchExpr.Proofs.Admissible
import WatchExpr.Proofs.Alike
import WatchExpr.Proofs.Batch
import WatchExpr.Proofs.Binary
import WatchExpr.Proofs.Blank
import WatchExpr.Proofs.Call
import WatchExpr.Proofs.Cell
import WatchExpr.Proofs.Consistency
import WatchExpr.Proofs.Contents
import WatchExpr.Proofs.Entry
import WatchExpr.Proofs.Explanation
import WatchExpr.Proofs.Extension
import WatchExpr.Proofs.Form
import WatchExpr.Proofs.Hint
import WatchExpr.Proofs.HintStack
import WatchExpr.Proofs.Inside
import WatchExpr.Proofs.Layout
import WatchExpr.Proofs.Line
import WatchExpr.Proofs.Literal
import WatchExpr.Proofs.Log
import WatchExpr.Proofs.Lvalue
import WatchExpr.Proofs.Masked
import WatchExpr.Proofs.Operand
import WatchExpr.Proofs.Operator
import WatchExpr.Proofs.Position
import WatchExpr.Proofs.Quoted
import WatchExpr.Proofs.Refusal
import WatchExpr.Proofs.Run
import WatchExpr.Proofs.Search
import WatchExpr.Proofs.Subscript
import WatchExpr.Proofs.Substitution
import WatchExpr.Proofs.Suffix
import WatchExpr.Proofs.Tool
import WatchExpr.Proofs.Unary
import WatchExpr.Proofs.Unchecked
import WatchExpr.Proofs.View
import WatchExpr.Proofs.Word
import WatchExpr.Reason
import WatchExpr.Refusal
import WatchExpr.Report.Batch
import WatchExpr.Report.Check
import WatchExpr.Report.Explanation
import WatchExpr.Report.Formats
import WatchExpr.Server
import WatchExpr.Subscript
import WatchExpr.Text.Blank
import WatchExpr.Text.CodeRange
import WatchExpr.Text.Decimal
import WatchExpr.Text.Line
import WatchExpr.Text.Printable
import WatchExpr.Text.Quoted
import WatchExpr.Text.Word
import WatchExpr.Tool
import WatchExpr.Value
import WatchExpr.Value.Request
import WatchExpr.Verdict
import WatchExpr.Verdict.Record
