/-!
# Reasons

Each check that can decide about an expression has a reason of its own.  A reason is known by a
short code and explained by one sentence.  `lvalue` is the reason of the expressions that no check
refuses.

The sentences stand in a table of their own, by the codes (`reasonTable`).  A code that is not in
the table has no sentence; the code of every reason is there (`Reason.lookup_code`).
-/

namespace WatchExpr

/-- Why an expression is editable or not. -/
inductive Reason where
  | lvalue
  | notText
  | empty
  | numericLiteral
  | quotedLiteral
  | call
  | parenthesized
  | binaryOperator
  | subtraction
  | multiplication
  | bitwiseAnd
  | bitwiseOr
  | bitwiseNot
  | logicalNot
  deriving DecidableEq, Repr

namespace Reason

/-- The reasons in the order in which the checks are made. -/
def all : List Reason :=
  [.lvalue, .notText, .empty, .numericLiteral, .quotedLiteral, .call, .parenthesized,
    .binaryOperator, .subtraction, .multiplication, .bitwiseAnd, .bitwiseOr, .bitwiseNot,
    .logicalNot]

theorem mem_all (r : Reason) : r ∈ all := by cases r <;> decide

/-- The code by which a check reports the reason, and a front end tells the reasons apart. -/
def code : Reason → String
  | .lvalue => "lvalue"
  | .notText => "not_a_string"
  | .empty => "empty"
  | .numericLiteral => "numeric_literal"
  | .quotedLiteral => "string_literal"
  | .call => "call"
  | .parenthesized => "parenthesized"
  | .binaryOperator => "binary_operator"
  | .subtraction => "subtraction"
  | .multiplication => "multiplication"
  | .bitwiseAnd => "bitwise_and"
  | .bitwiseOr => "bitwise_or"
  | .bitwiseNot => "bitwise_not"
  | .logicalNot => "logical_not"

end Reason

/-! ### The table of sentences -/

/-- The codes of the reasons, each with the sentence that explains the reason to a reader. -/
def reasonTable : List (String × String) :=
  [("lvalue", "Names a storage location that can be assigned."),
    ("not_a_string", "Input is not a string."),
    ("empty", "Expression is empty."),
    ("numeric_literal", "Numeric literals are values, not locations."),
    ("string_literal", "String and character literals cannot be assigned."),
    ("call", "Function calls, method calls and sizeof produce values."),
    ("parenthesized", "Casts and parenthesized expressions are not treated as locations."),
    ("binary_operator", "Binary, comparison, logical or ternary operator outside a subscript."),
    ("subtraction", "Subtraction between two operands."),
    ("multiplication", "Multiplication between two operands."),
    ("bitwise_and", "Bitwise AND between two operands."),
    ("bitwise_or", "Bitwise OR always combines two values."),
    ("bitwise_not", "Bitwise NOT yields a computed value."),
    ("logical_not", "Logical NOT yields a computed value.")]

namespace Reason

/-- The sentence that the table has for a code, if it has one. -/
def explanation? (code : List Char) : Option (List Char) :=
  (reasonTable.lookup (String.ofList code)).map String.toList

/-- The sentence that explains the reason to a reader. -/
def detail (r : Reason) : String := (reasonTable.lookup r.code).getD ""

theorem lookup_code (r : Reason) : reasonTable.lookup r.code = some r.detail := by
  cases r <;> rfl

theorem explanation?_code (r : Reason) : explanation? r.code.toList = some r.detail.toList := by
  rw [explanation?, String.ofList_toList, lookup_code]
  rfl

end Reason

end WatchExpr
