/-!
# Operators

The operators that combine values wherever they stand.  Each is known by its symbol; `find?` gives
the first operator of the table that occurs in a text.

The arrow `->` ends in `>`, so that an arrow with `>` or `=` after it holds the symbol of a shift or
a comparison.  An occurrence of these two symbols directly after `-` does not count.  The search for
an operator goes from one occurrence of its symbol to the next, and passes over those that do not
count (`searchFrom`).  A scan that looks at every character finds the same (`occursFrom`); the
search is the one in use, and the scan tells what is found in a text from the parts of the text.

An exclamation mark is the first character of `!=` or else negates what comes after it;
`hasNegation` looks for the second case.
-/

namespace WatchExpr

/-- The operators of the table. -/
inductive Operator where
  | shiftLeft
  | shiftRight
  | atMost
  | atLeast
  | equal
  | unequal
  | both
  | either
  | plus
  | over
  | remainder
  | exclusive
  | question
  | colon
  deriving DecidableEq, Repr

namespace Operator

/-- The table: operators of two characters before those of one. -/
def all : List Operator :=
  [.shiftLeft, .shiftRight, .atMost, .atLeast, .equal, .unequal, .both, .either,
    .plus, .over, .remainder, .exclusive, .question, .colon]

theorem mem_all (op : Operator) : op ∈ all := by cases op <;> decide

/-- The characters that the operator is written with. -/
def symbol : Operator → List Char
  | .shiftLeft => ['<', '<']
  | .shiftRight => ['>', '>']
  | .atMost => ['<', '=']
  | .atLeast => ['>', '=']
  | .equal => ['=', '=']
  | .unequal => ['!', '=']
  | .both => ['&', '&']
  | .either => ['|', '|']
  | .plus => ['+']
  | .over => ['/']
  | .remainder => ['%']
  | .exclusive => ['^']
  | .question => ['?']
  | .colon => [':']

/-- Whether the symbol can begin with the last character of an arrow. -/
def sharesArrow : Operator → Bool
  | .shiftRight | .atLeast => true
  | _ => false

/-! ### The search -/

/-- The place at which the symbol first begins in a text whose first character is at the place
`start`. -/
def placeFrom? (op : Operator) : Nat → List Char → Option Nat
  | _, [] => none
  | start, c :: rest =>
    if op.symbol.isPrefixOf (c :: rest) then some start else op.placeFrom? (start + 1) rest

/-- The character directly before a place of a text that has `last` before it. -/
def charBefore (last : Option Char) (s : List Char) : Nat → Option Char
  | 0 => last
  | i + 1 => s[i]?

/-- Whether the search finds the operator after the first `skip` characters of a text that has
`last` before it.  Where the symbol begins with the last character of an arrow, the search begins
anew at the next character. -/
def searchFrom (op : Operator) : Nat → Option Char → List Char → Bool
  | _, _, [] => false
  | skip + 1, _, c :: rest => op.searchFrom skip (some c) rest
  | 0, last, c :: rest =>
    match op.placeFrom? 0 (c :: rest) with
    | none => false
    | some i =>
      if op.sharesArrow && charBefore last (c :: rest) i == some '-' then
        op.searchFrom i (some c) rest
      else true

/-- Whether the search finds the operator in the text. -/
def isFoundIn (op : Operator) (s : List Char) : Bool := op.searchFrom 0 none s

/-- The first operator of `table` that is found in the text. -/
def findIn? (table : List Operator) (s : List Char) : Option Operator :=
  table.find? fun op => op.isFoundIn s

/-- The first operator of the table that is found in the text. -/
def find? (s : List Char) : Option Operator := findIn? all s

/-! ### The scan -/

/-- Whether the operator occurs in a text; `afterDash` says whether `-` stands directly before its
first character. -/
def occursFrom (op : Operator) : Bool → List Char → Bool
  | _, [] => false
  | afterDash, c :: rest =>
    (op.symbol.isPrefixOf (c :: rest) && !(op.sharesArrow && afterDash))
      || occursFrom op (c == '-') rest

/-- Whether the operator occurs in the text. -/
def occursIn (op : Operator) (s : List Char) : Bool := op.occursFrom false s

@[simp] theorem occursFrom_nil (op : Operator) (b : Bool) : op.occursFrom b [] = false := rfl

theorem occursFrom_cons (op : Operator) (b : Bool) (c : Char) (s : List Char) :
    op.occursFrom b (c :: s) = ((op.symbol.isPrefixOf (c :: s) && !(op.sharesArrow && b))
      || op.occursFrom (c == '-') s) := rfl

end Operator

/-! ### Negation -/

/-- Whether the text holds an exclamation mark that does not begin `!=`. -/
def hasNegation : List Char → Bool
  | [] => false
  | c :: rest => (c == '!' && rest.head? != some '=') || hasNegation rest

end WatchExpr
