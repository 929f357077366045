import WatchExpr.Value

/-!
# Failures

What a request can fail of, and the message for each.  The verdict on an expression never fails;
the operations that need a text do when they are given another value.
-/

namespace WatchExpr

/-- Why a request has no answer. -/
inductive Failure where
  /-- The display hint of a value that is no text was wanted. -/
  | noSuffix (got : Kind)
  /-- A value that is no text was given for a letter, which is read in either case. -/
  | noLetterCase (got : Kind)
  /-- The characters of a value that has none were wanted. -/
  | noCharacters (got : Kind)
  /-- The lines of a value that is no text were wanted. -/
  | noLines (got : Kind)
  /-- There is no tool of this name. -/
  | unknownTool (name : List Char)
  /-- A call of the tool lacks one of its arguments. -/
  | missingArgument (tool argument : String)
  deriving DecidableEq, Repr

namespace Failure

/-- The name of a kind of values, between quotation marks. -/
def kindText (k : Kind) : List Char := '\'' :: k.name.toList ++ ['\'']

/-- What the sender of the request is told. -/
def message : Failure → List Char
  | .noSuffix k => "expected string or bytes-like object, got ".toList ++ kindText k
  | .noLetterCase k => kindText k ++ " object has no attribute 'lower'".toList
  | .noCharacters k => kindText k ++ " object is not iterable".toList
  | .noLines k => kindText k ++ " object has no attribute 'splitlines'".toList
  | .unknownTool name => "Unknown tool: ".toList ++ name
  | .missingArgument tool argument =>
    "Missing argument of ".toList ++ tool.toList ++ ": ".toList ++ argument.toList

end Failure

end WatchExpr
