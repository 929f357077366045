/-!
# Word characters

The classes from which the names and numbers of C are made.  All of them are ASCII: a letter of
another script is neither a letter nor a word character here.
-/

namespace WatchExpr

/-- Whether `c` can begin a name: an ASCII letter or an underscore. -/
def isNameStart (c : Char) : Bool := c.isAlpha || c == '_'

/-- Whether `c` can stand inside a name: an ASCII letter, an ASCII digit or an underscore. -/
def isWord (c : Char) : Bool := c.isDigit || isNameStart c

/-- Whether `c` is a hexadecimal digit, in either case. -/
def isHexDigit (c : Char) : Bool :=
  c.isDigit || (decide ('a' ≤ c) && decide (c ≤ 'f')) || (decide ('A' ≤ c) && decide (c ≤ 'F'))

/-- Whether `c` can end an operand: a word character, or the bracket that closes a subscript. -/
def isOperandEnd (c : Char) : Bool := isWord c || c == ']'

theorem isWord_of_isDigit {c : Char} (h : c.isDigit = true) : isWord c = true := by
  simp [isWord, h]

theorem isWord_of_isNameStart {c : Char} (h : isNameStart c = true) : isWord c = true := by
  simp [isWord, h]

theorem isOperandEnd_of_isWord {c : Char} (h : isWord c = true) : isOperandEnd c = true := by
  simp [isOperandEnd, h]

end WatchExpr
