import WatchExpr.Format
import WatchExpr.Refusal
import WatchExpr.Subscript
import WatchExpr.Value

/-!
# Verdicts

The verdict on a watch expression: its parts, and the reason for which it is editable or not.
Everything else that is said about it (whether it is editable, the display format, the sentence
that explains the reason) follows from these.

The display hint is taken off first and the blanks around the rest after it; then the form of what
is left is checked, and last the operators of its masked view.  The masked view is part of the
verdict when it was needed.
-/

namespace WatchExpr

/-- What was found out about one expression. -/
structure Verdict where
  /-- The expression as it was typed. -/
  expression : List Char
  /-- The expression without its display hint and the blanks around it. -/
  base : List Char
  /-- The letter of the display hint. -/
  letter : Option FormatLetter
  /-- The masked view of `base`, if the operators were looked for. -/
  masked : Option (List Char)
  /-- What decided. -/
  reason : Reason
  deriving DecidableEq, Repr

namespace Verdict

/-- Whether the expression names a location that can be written. -/
def editable (v : Verdict) : Bool := v.reason == .lvalue

/-- The format that the display hint asks for. -/
def displayFormat (v : Verdict) : Option DisplayFormat := v.letter.map FormatLetter.displayFormat

/-- The sentence that explains the reason. -/
def detail (v : Verdict) : String := v.reason.detail

/-- The words for the two outcomes. -/
def status (v : Verdict) : String := if v.editable then "EDITABLE" else "NOT EDITABLE"

/-- The checks on an expression with neither hint nor blanks around it, one after the other: its
masked view, if its operators were looked for, and the reason against it, if a check found one. -/
def examine (base : List Char) : Option (List Char) × Option Reason :=
  if base.isEmpty then (none, some .empty)
  else
    match formRefusal? base with
    | some r => (none, some r)
    | none =>
      let masked := Subscript.mask base
      (some masked, operatorRefusal? masked)

/-- The masked view and the reason for such an expression; without a reason against it, it is an
lvalue. -/
def judge (base : List Char) : Option (List Char) × Reason :=
  ((examine base).1, (examine base).2.getD .lvalue)

/-- The verdict on a text. -/
def ofText (s : List Char) : Verdict :=
  let base := stripSuffix s
  { expression := s
    base := base
    letter := (splitSuffix s).2
    masked := (judge base).1
    reason := (judge base).2 }

/-- The verdict on a value that is no text: it is not editable, and it has no parts. -/
def ofNonText : Verdict :=
  { expression := [], base := [], letter := none, masked := none, reason := .notText }

end Verdict

/-- The verdict on a value of any kind. -/
def classify : Value → Verdict
  | .text s => Verdict.ofText s
  | _ => Verdict.ofNonText

/-- Whether the value is a text that names a location that can be written. -/
def isEditable (v : Value) : Bool := (classify v).editable

@[simp] theorem classify_text (s : List Char) : classify (.text s) = Verdict.ofText s := rfl

namespace Verdict

theorem editable_iff {v : Verdict} : v.editable = true ↔ v.reason = .lvalue := by
  simp [editable]

theorem judge_eq (base : List Char) :
    judge base =
      if base.isEmpty then (none, .empty)
      else
        match formRefusal? base with
        | some r => (none, r)
        | none => (some (Subscript.mask base),
            (operatorRefusal? (Subscript.mask base)).getD .lvalue) := by
  rw [judge, examine]
  split
  · rfl
  · cases formRefusal? base <;> rfl

/-- No check gives the reason of the expressions that pass them all. -/
theorem examine_snd_ne_lvalue (base : List Char) : (examine base).2 ≠ some .lvalue := by
  rw [examine]
  split
  · decide
  · cases hform : formRefusal? base with
    | none => exact operatorRefusal?_ne_lvalue _
    | some r => exact fun h => formRefusal?_ne_lvalue base (hform.trans h)

end Verdict

end WatchExpr
