import WatchExpr.Failure
import WatchExpr.Format
import WatchExpr.Subscript

/-!
# Requests with values of any kind

The operations on texts, for a value that may be no text.  Each says by its own failure what it
missed in the value.
-/

namespace WatchExpr

namespace Value

/-- The two parts of a text: the expression and the letter of its display hint. -/
def splitSuffix (v : Value) : Except Failure (List Char × Option FormatLetter) :=
  (v.asText .noSuffix).map WatchExpr.splitSuffix

/-- The text without its display hint and the blanks around the rest. -/
def stripSuffix (v : Value) : Except Failure (List Char) :=
  (v.asText .noSuffix).map WatchExpr.stripSuffix

/-- The format that the value asks for as a letter of a display hint.  A void value is no letter,
and a text that is none of the letters in the table asks for nothing. -/
def displayFormat? (v : Value) : Except Failure (Option DisplayFormat) :=
  if v.isVoid then .ok none else (v.asText .noLetterCase).map DisplayFormat.ofLetter?

end Value

/-- The masked view of a scalar, which has to be a text. -/
def Scalar.mask (a : Scalar) : Except Failure (List Char) :=
  ((Value.scalar a).asText .noCharacters).map Subscript.mask

end WatchExpr
