import WatchExpr.Text.Word

/-!
# Literals

A numeric literal is a whole text: a decimal with at most one sign and at most one point, or `0x`
with hexadecimal digits after it.  A text or character literal is known by its first character
alone.
-/

namespace WatchExpr.Literal

/-- Whether the text is one or more decimal digits. -/
def isDigits (s : List Char) : Bool := !s.isEmpty && s.all Char.isDigit

/-- Whether the text is one or more hexadecimal digits. -/
def isHexDigits (s : List Char) : Bool := !s.isEmpty && s.all isHexDigit

/-- The text without the minus sign at its start, if it has one. -/
def unsigned : List Char → List Char
  | '-' :: rest => rest
  | s => s

/-- Whether the text is digits, or digits, a point and digits. -/
def isUnsignedDecimal (s : List Char) : Bool :=
  match s.dropWhile Char.isDigit with
  | [] => isDigits s
  | '.' :: fraction => isDigits (s.takeWhile Char.isDigit) && isDigits fraction
  | _ => false

/-- Whether the text is a decimal number, with a minus sign before it or none. -/
def isDecimal (s : List Char) : Bool := isUnsignedDecimal (unsigned s)

/-- Whether the text is `0x` or `0X` and hexadecimal digits. -/
def isHexadecimal : List Char → Bool
  | '0' :: 'x' :: digits => isHexDigits digits
  | '0' :: 'X' :: digits => isHexDigits digits
  | _ => false

/-- Whether the text is a numeric literal. -/
def isNumeric (s : List Char) : Bool := isDecimal s || isHexadecimal s

/-- Whether the text begins as a text or character literal does. -/
def isQuoted : List Char → Bool
  | '"' :: _ => true
  | '\'' :: _ => true
  | _ => false

theorem isDigits_iff {s : List Char} : isDigits s = true ↔ s ≠ [] ∧ ∀ c ∈ s, c.isDigit = true := by
  simp [isDigits]

theorem isHexDigits_iff {s : List Char} :
    isHexDigits s = true ↔ s ≠ [] ∧ ∀ c ∈ s, isHexDigit c = true := by
  simp [isHexDigits]

end WatchExpr.Literal
