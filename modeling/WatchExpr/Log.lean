import WatchExpr.Verdict

/-!
# The debug log

Every refusal leaves one record, which names the reason and quotes the whole input.  An editable
expression leaves none.

The records are written at two places: a value that is no text is refused at once, and a text when
the checks have found a reason against it.
-/

namespace WatchExpr

/-- One record of the log. -/
structure LogRecord where
  channel : String
  level : String
  message : List Char
  deriving DecidableEq, Repr

/-- The channel on which refusals are recorded. -/
def refusalChannel : String := "watch_analysis.expression_utils"

/-- What is recorded of a refusal. -/
def refusalMessage (r : Reason) (input : Scalar) : List Char :=
  "Not editable (".toList ++ r.code.toList ++ "): ".toList ++ input.quoted

/-- The record of a refusal. -/
def refusalRecord (r : Reason) (input : Scalar) : LogRecord :=
  { channel := refusalChannel, level := "DEBUG", message := refusalMessage r input }

/-- The records that the judgment of `input` leaves. -/
def refusalLog : Scalar → List LogRecord
  | .text s =>
    match (Verdict.examine (stripSuffix s)).2 with
    | none => []
    | some r => [refusalRecord r (.text s)]
  | input => [refusalRecord .notText input]

end WatchExpr
