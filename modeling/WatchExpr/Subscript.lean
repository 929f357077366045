/-!
# Subscripts

The text between `[` and `]` says which element is meant and has no part in what the whole
expression is.  `mask` removes it and keeps the brackets, with one placeholder before each bracket
that closes a subscript: `m[i][j-1]` becomes `m[0][0]`, and `a[b[i]]` becomes `a[[0]0]`.

A `]` with no `[` before it is kept as it is, and a `[` that is never closed hides the rest of the
text.  The scan is a fold whose state is the number of subscripts that are open, so that what it
does to a text can be told from its two halves (`depthFrom_append`, `maskFrom_append`).
-/

namespace WatchExpr.Subscript

/-- What stands for the text of a subscript. -/
def placeholder : Char := '0'

/-! ### Depth -/

/-- The number of open subscripts after the character `c`, if there were `depth` before it. -/
def nest (depth : Nat) (c : Char) : Nat :=
  if c = '[' then depth + 1 else if c = ']' then depth - 1 else depth

/-- The number of open subscripts after a text, if there were `depth` before it. -/
def depthFrom (depth : Nat) (s : List Char) : Nat := s.foldl nest depth

/-- The number of subscripts that are open where the text ends. -/
def depth (s : List Char) : Nat := depthFrom 0 s

@[simp] theorem depthFrom_nil (n : Nat) : depthFrom n [] = n := rfl

@[simp] theorem depthFrom_cons (n : Nat) (c : Char) (s : List Char) :
    depthFrom n (c :: s) = depthFrom (nest n c) s := rfl

theorem depthFrom_append (n : Nat) (s t : List Char) :
    depthFrom n (s ++ t) = depthFrom (depthFrom n s) t := by
  simp [depthFrom]

/-! ### The masked view -/

/-- What is left of the character `c` with `depth` subscripts open before it. -/
def shown (depth : Nat) (c : Char) : List Char :=
  if c = '[' then ['[']
  else if c = ']' then (if depth = 0 then [']'] else [placeholder, ']'])
  else if depth = 0 then [c] else []

/-- The masked view of a text with `depth` subscripts open before it. -/
def maskFrom : Nat → List Char → List Char
  | _, [] => []
  | depth, c :: rest => shown depth c ++ maskFrom (nest depth c) rest

/-- The text with what stands inside its subscripts masked out. -/
def mask (s : List Char) : List Char := maskFrom 0 s

@[simp] theorem maskFrom_nil (n : Nat) : maskFrom n [] = [] := rfl

@[simp] theorem maskFrom_cons (n : Nat) (c : Char) (s : List Char) :
    maskFrom n (c :: s) = shown n c ++ maskFrom (nest n c) s := rfl

theorem maskFrom_append (n : Nat) (s t : List Char) :
    maskFrom n (s ++ t) = maskFrom n s ++ maskFrom (depthFrom n s) t := by
  induction s generalizing n with
  | nil => rfl
  | cons c s ih => simp [ih]

end WatchExpr.Subscript
