import WatchExpr.Text.Blank
import WatchExpr.Text.Word

/-!
# Calls

A call is a name, any number of blanks, and an opening parenthesis.  A run of word characters is a
name unless it is digits alone, so that `sizeof (x)` and `3rd(x)` are calls and `12(x)` is not.

`callsRun` looks for a call run by run: a run is read as a whole from where it begins, together with
the blanks and the parenthesis after it, and what has been read so is not looked at again.
`hasCall` finds a call character by character, and its state says what can be called at the place
that the pass has reached.  The two agree (`callsRun_eq_hasCall`); the first is the one in use, and
the second tells what is found in a text from the parts of the text (`Callee.hasCallFrom_append`).
-/

namespace WatchExpr

/-- What stands directly before a place in a text, as far as a call is concerned. -/
inductive Callee where
  /-- Nothing that can be called. -/
  | absent
  /-- A run of digits, which a letter may still make a name. -/
  | number
  /-- A run of word characters that are not all digits. -/
  | name
  /-- A name and one or more blanks after it. -/
  | spaced
  deriving DecidableEq, Repr

namespace Callee

/-- Whether an opening parenthesis at this place makes a call. -/
def isCallable : Callee → Bool
  | .name | .spaced => true
  | .absent | .number => false

/-- What stands before the place after the character `c`. -/
def step (k : Callee) (c : Char) : Callee :=
  if c.isDigit then (if k = .name then .name else .number)
  else if isNameStart c then .name
  else if isBlank c then (if k.isCallable then .spaced else .absent)
  else .absent

/-- Whether a call is completed in the text, with `k` before its first character. -/
def hasCallFrom : Callee → List Char → Bool
  | _, [] => false
  | k, c :: rest => (c == '(' && k.isCallable) || hasCallFrom (k.step c) rest

@[simp] theorem hasCallFrom_nil (k : Callee) : hasCallFrom k [] = false := rfl

@[simp] theorem hasCallFrom_cons (k : Callee) (c : Char) (s : List Char) :
    hasCallFrom k (c :: s) = ((c == '(' && k.isCallable) || hasCallFrom (k.step c) s) := rfl

theorem hasCallFrom_append (k : Callee) (s t : List Char) :
    hasCallFrom k (s ++ t) = (hasCallFrom k s || hasCallFrom (s.foldl step k) t) := by
  induction s generalizing k with
  | nil => simp
  | cons c s ih => simp [ih, Bool.or_assoc]

end Callee

/-- Whether the text holds a call. -/
def hasCall (s : List Char) : Bool := Callee.hasCallFrom .absent s

/-- Whether the first character of the text that is not a blank is an opening parenthesis, as it is
in a cast or a grouping. -/
def hasLeadingParen (s : List Char) : Bool := (trimStart s).head? == some '('

/-! ### Calls by runs -/

/-- The run of word characters at the start of the text, if blanks and an opening parenthesis come
after it, and the length of the run, the blanks and the parenthesis. -/
def calledRun? (s : List Char) : Option (List Char × Nat) :=
  let run := s.takeWhile isWord
  let rest := s.dropWhile isWord
  if !run.isEmpty && hasLeadingParen rest then
    some (run, run.length + (rest.takeWhile isBlank).length + 1)
  else none

/-- Whether a run that is not digits alone is called in the text.  The first `skip` characters have
been read with the run before them, and `afterWord` says whether a word character stands directly
before the text, where no run can begin. -/
def callsRunFrom : Nat → Bool → List Char → Bool
  | _, _, [] => false
  | skip + 1, _, c :: rest => callsRunFrom skip (isWord c) rest
  | 0, true, c :: rest => callsRunFrom 0 (isWord c) rest
  | 0, false, c :: rest =>
    match calledRun? (c :: rest) with
    | some (run, length) =>
      !run.all Char.isDigit || callsRunFrom (length - 1) (isWord c) rest
    | none => callsRunFrom 0 (isWord c) rest

/-- Whether a run that is not digits alone is called somewhere in the text. -/
def callsRun (s : List Char) : Bool := callsRunFrom 0 false s

end WatchExpr
