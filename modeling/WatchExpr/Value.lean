import WatchExpr.Text.Decimal
import WatchExpr.Text.Quoted

/-!
# Values

A front end should send text where an expression is wanted, and can send any value.  The values
that are not text differ here in three things: their kind, whether they are void, and, for the
scalars among them, how they are written.  So a list and an object are known by their size alone,
and a number with a fraction by whether it is zero.
-/

namespace WatchExpr

/-- The kinds of values. -/
inductive Kind where
  | null
  | bool
  | int
  | real
  | text
  | list
  | object
  deriving DecidableEq, Repr

/-- The name of the kind, as messages give it. -/
def Kind.name : Kind → String
  | .null => "NoneType"
  | .bool => "bool"
  | .int => "int"
  | .real => "float"
  | .text => "str"
  | .list => "list"
  | .object => "dict"

/-! ### Scalars -/

/-- A text, a whole number, a truth value, or nothing.  A text is a list of characters, none of
which is half of a surrogate pair: what a front end sends is text that can be encoded. -/
inductive Scalar where
  | null
  | bool (b : Bool)
  | int (n : Int)
  | text (s : List Char)
  deriving DecidableEq, Repr

namespace Scalar

/-- The kind of the scalar. -/
def kind : Scalar → Kind
  | .null => .null
  | .bool _ => .bool
  | .int _ => .int
  | .text _ => .text

/-- The scalar as it is: a text without quotation marks. -/
def plain : Scalar → List Char
  | .null => "None".toList
  | .bool true => "True".toList
  | .bool false => "False".toList
  | .int n => intText n
  | .text s => s

/-- The scalar with its text quoted, so that a text is never taken for another scalar. -/
def quoted : Scalar → List Char
  | .text s => WatchExpr.quoted s
  | a => a.plain

/-- Whether the scalar is nothing, false, zero or the empty text. -/
def isVoid : Scalar → Bool
  | .null => true
  | .bool b => !b
  | .int n => n == 0
  | .text s => s.isEmpty

end Scalar

/-! ### All values -/

/-- What a front end can send.  The texts among the values are those of the scalars, so they hold no
lone surrogates either. -/
inductive Value where
  | scalar (a : Scalar)
  /-- A number with a fraction or an exponent. -/
  | real (isZero : Bool)
  | list (size : Nat)
  | object (size : Nat)
  deriving DecidableEq, Repr

namespace Value

/-- A text as a value. -/
@[match_pattern] def text (s : List Char) : Value := .scalar (.text s)

/-- The kind of the value. -/
def kind : Value → Kind
  | .scalar a => a.kind
  | .real _ => .real
  | .list _ => .list
  | .object _ => .object

/-- Whether the value is nothing, false, zero, or has no parts. -/
def isVoid : Value → Bool
  | .scalar a => a.isVoid
  | .real isZero => isZero
  | .list size => size == 0
  | .object size => size == 0

/-- The text, or else the failure that the kind of the value makes. -/
def asText {ε : Type} (failure : Kind → ε) : Value → Except ε (List Char)
  | .text s => .ok s
  | v => .error (failure v.kind)

@[simp] theorem asText_text {ε : Type} (failure : Kind → ε) (s : List Char) :
    (text s).asText failure = .ok s := rfl

end Value

end WatchExpr
