import WatchExpr.Verdict

/-!
# Records of verdicts

The form in which a verdict is handed to a front end: eight fields side by side, each of them plain
text or a truth value.  A record can be filled in by hand; every field but the expression has a
default, which is what an expression that was never judged looks like.

A value is judged by filling in its record (`Record.ofValue`).  The record of a text is begun with
the parts of the text, then it takes the masked view if there is one, then the outcome of the
checks, and last the sentence that explains the reason.  The sentence is looked up by the code that
stands in the record, and a code that is not in the table is the one failure there is.  The record
of a value that is no text is begun with its reason.  Whatever is not filled in keeps its default.
-/

namespace WatchExpr

/-- A verdict as eight plain fields. -/
structure Record where
  expression : List Char
  base : List Char := []
  letter : Option (List Char) := none
  displayFormat : Option (List Char) := none
  masked : Option (List Char) := none
  editable : Bool := false
  reason : List Char := "empty".toList
  detail : List Char := []
  deriving DecidableEq, Repr

/-- The failure to explain a code: it is not in the table of sentences. -/
structure UnknownReason where
  code : List Char
  deriving DecidableEq, Repr

namespace Record

/-! ### The fields, in the order in which they are filled in -/

/-- The record of a text before any check: the expression, the parts of it, and the format that the
letter of the hint asks for. -/
def start (s : List Char) : Record :=
  let letter := (splitSuffix s).2.map fun l => [l.toChar]
  { expression := s
    base := trim (splitSuffix s).1
    letter := letter
    displayFormat := (letter.bind DisplayFormat.ofLetter?).map fun f => f.name.toList }

/-- The record with the masked view, if the checks made one. -/
def withMasked (r : Record) : Option (List Char) → Record
  | none => r
  | some m => { r with masked := some m }

/-- The record with the outcome of the checks, which is the code of a refusal or none. -/
def settle (r : Record) : Option (List Char) → Record
  | none => { r with editable := true, reason := "lvalue".toList }
  | some code => { r with reason := code }

/-- The record with the sentence that explains its reason. -/
def explain (r : Record) : Except UnknownReason Record :=
  match Reason.explanation? r.reason with
  | none => .error { code := r.reason }
  | some sentence => .ok { r with detail := sentence }

/-! ### The records of values -/

/-- The record of a text. -/
def ofText (s : List Char) : Except UnknownReason Record :=
  let record := start s
  let (masked, refusal) := Verdict.examine record.base
  let code := refusal.map fun q => q.code.toList
  ((record.withMasked masked).settle code).explain

/-- The record of a value that is no text. -/
def ofNonText : Except UnknownReason Record :=
  explain { expression := [], reason := "not_a_string".toList }

/-- The record of a value of any kind. -/
def ofValue : Value → Except UnknownReason Record
  | .text s => ofText s
  | _ => ofNonText

end Record

/-- The record that shows a verdict. -/
def Verdict.toRecord (v : Verdict) : Record where
  expression := v.expression
  base := v.base
  letter := v.letter.map fun l => [l.toChar]
  displayFormat := v.displayFormat.map fun f => f.name.toList
  masked := v.masked
  editable := v.editable
  reason := v.reason.code.toList
  detail := v.detail.toList

end WatchExpr
