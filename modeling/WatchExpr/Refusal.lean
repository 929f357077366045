import WatchExpr.Call
import WatchExpr.Literal
import WatchExpr.Operand
import WatchExpr.Operator
import WatchExpr.Reason

/-!
# Refusals

No expression is taken apart here.  A row of checks looks for one trait after the other of an
expression that only computes a value, and the first that is found is the reason of the refusal.

`formRefusal?` looks at the form of the whole text: a literal, a call, a parenthesis at its start.
`operatorRefusal?` looks for operators, and is meant for the masked view of a text, where no
subscript can hold one.
-/

namespace WatchExpr

/-- Why the form of the text shows that it names no location, if it does. -/
def formRefusal? (s : List Char) : Option Reason :=
  if Literal.isNumeric s then some .numericLiteral
  else if Literal.isQuoted s then some .quotedLiteral
  else if callsRun s then some .call
  else if hasLeadingParen s then some .parenthesized
  else none

/-- Which operator outside its subscripts shows that the text computes a value, if one does. -/
def operatorRefusal? (s : List Char) : Option Reason :=
  if (Operator.find? s).isSome then some .binaryOperator
  else if subtracts s then some .subtraction
  else if joins '*' s then some .multiplication
  else if joins '&' s then some .bitwiseAnd
  else if s.contains '|' then some .bitwiseOr
  else if s.contains '~' then some .bitwiseNot
  else if hasNegation s then some .logicalNot
  else none

/-! ### What passes the checks -/

theorem operatorRefusal?_eq_none_iff {s : List Char} :
    operatorRefusal? s = none ↔
      Operator.find? s = none ∧ joins '-' s = false ∧ joins '*' s = false ∧ joins '&' s = false
        ∧ s.contains '|' = false ∧ s.contains '~' = false ∧ hasNegation s = false := by
  unfold operatorRefusal?
  rw [subtracts_eq_joins]
  repeat' split
  all_goals simp_all [Option.isSome_iff_ne_none]

/-- No check gives the reason of the expressions that pass them all. -/
theorem formRefusal?_ne_lvalue (s : List Char) : formRefusal? s ≠ some .lvalue := by
  unfold formRefusal?
  repeat' split
  all_goals simp

theorem operatorRefusal?_ne_lvalue (s : List Char) : operatorRefusal? s ≠ some .lvalue := by
  unfold operatorRefusal?
  repeat' split
  all_goals simp

end WatchExpr
