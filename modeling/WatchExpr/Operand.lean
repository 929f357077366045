import WatchExpr.Text.Blank
import WatchExpr.Text.Word

/-!
# Signs that depend on their operands

The signs `-`, `*` and `&` stand before one operand or between two.  A sign joins two operands when
an operand ends directly before it and a word character directly follows it, blanks aside;
otherwise it belongs to what comes after it.  `joins sign` finds such a place in one pass, whose
state is what has been read of it.

The minus sign is also the first character of the arrow `->`, so that `subtracts` looks at each
character after it once more.  It finds what `joins` finds (`subtracts_eq_joins`).
-/

namespace WatchExpr

/-- What has been read of an operand, a sign and an operand, blanks aside. -/
inductive Joint where
  /-- Nothing of it. -/
  | nothing
  /-- An operand. -/
  | operand
  /-- An operand and the sign. -/
  | sign
  deriving DecidableEq, Repr

namespace Joint

/-- What has been read once `c` has been read too. -/
def step (sign : Char) (j : Joint) (c : Char) : Joint :=
  if isOperandEnd c then .operand
  else if isBlank c then j
  else if c = sign ∧ j = .operand then .sign
  else .nothing

/-- Whether the sign joins two operands in the text, with `j` read before its first character. -/
def joinsFrom (sign : Char) : Joint → List Char → Bool
  | _, [] => false
  | j, c :: rest => (decide (j = .sign) && isWord c) || joinsFrom sign (j.step sign c) rest

@[simp] theorem joinsFrom_nil (sign : Char) (j : Joint) : joinsFrom sign j [] = false := rfl

@[simp] theorem joinsFrom_cons (sign : Char) (j : Joint) (c : Char) (s : List Char) :
    joinsFrom sign j (c :: s)
      = ((decide (j = .sign) && isWord c) || joinsFrom sign (j.step sign c) s) := rfl

theorem joinsFrom_append (sign : Char) (j : Joint) (s t : List Char) :
    joinsFrom sign j (s ++ t)
      = (joinsFrom sign j s || joinsFrom sign (s.foldl (Joint.step sign) j) t) := by
  induction s generalizing j with
  | nil => simp
  | cons c s ih => simp [ih, Bool.or_assoc]

end Joint

/-- Whether the sign joins two operands somewhere in the text. -/
def joins (sign : Char) (s : List Char) : Bool := Joint.joinsFrom sign .nothing s

/-! ### The minus sign -/

/-- Whether a minus sign that is not the start of an arrow joins two operands in the text, with `j`
read before its first character. -/
def Joint.subtractsFrom : Joint → List Char → Bool
  | _, [] => false
  | j, c :: rest =>
    (decide (j = .sign) && c != '>' && isWord c) || subtractsFrom (j.step '-' c) rest

/-- Whether a minus sign that is not the start of an arrow joins two operands somewhere in the
text. -/
def subtracts (s : List Char) : Bool := Joint.subtractsFrom .nothing s

theorem Joint.subtractsFrom_eq_joinsFrom (j : Joint) (s : List Char) :
    subtractsFrom j s = joinsFrom '-' j s := by
  induction s generalizing j with
  | nil => rfl
  | cons c s ih =>
    rw [subtractsFrom, joinsFrom_cons, ih]
    by_cases hc : c = '>'
    · subst hc
      have hword : isWord '>' = false := by decide
      rw [hword, Bool.and_false, Bool.and_false]
    · rw [bne_iff_ne.mpr hc, Bool.and_true]

/-- The second operand begins with a word character, which is no part of an arrow anyway. -/
theorem subtracts_eq_joins (s : List Char) : subtracts s = joins '-' s :=
  Joint.subtractsFrom_eq_joinsFrom .nothing s

end WatchExpr
