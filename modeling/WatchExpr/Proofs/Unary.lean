import WatchExpr.Proofs.Extension
import WatchExpr.Proofs.Form
import WatchExpr.Proofs.Lvalue

/-!
# Signs before an expression

An operation of one operand computes a value.  Three of its signs, `+`, `~` and `!`, are looked for
wherever they stand, so that nothing that begins with one of them is editable
(`not_admissible_of_valueSigns`).  A minus sign is looked for between two operands only, and as the
sign of a number.  Before an expression it is neither, and nothing is found in the whole that is not
found in the expression (`NamesLocation.dash_cons`).  Where the expression begins with `>` the two
make an arrow, which is no operator either.

So of the four signs the minus sign alone leaves an editable expression editable
(`editable_unary_iff`): `-a` is editable.
-/

namespace WatchExpr

variable {e s w : List Char} {sign : Char}

/-! ### Signs that are looked for anywhere -/

/-- The signs with one operand that are found wherever they stand. -/
def valueSigns : List Char := ['+', '~', '!']

/-- The signs of the operations that compute a value from one operand. -/
def unarySigns : List Char := '-' :: valueSigns

/-- Nothing that begins with such a sign passes the checks. -/
theorem not_admissible_of_valueSigns (hsign : sign ∈ valueSigns) (s : List Char) :
    ¬ Admissible (sign :: s) := by
  intro h
  simp only [valueSigns, List.mem_cons, List.not_mem_nil, or_false] at hsign
  have hbracket : BracketFree [sign] := by rcases hsign with rfl | rfl | rfl <;> decide
  have hfree := h.operatorFree
  rw [Subscript.mask_cons hbracket] at hfree
  rcases hsign with rfl | rfl | rfl
  · have hplus : Operator.plus.occursIn ('+' :: Subscript.mask s) = true :=
      Operator.occursIn_append_symbol [] (Subscript.mask s) fun hshares =>
        absurd hshares (by decide)
    rw [hfree.occurs .plus] at hplus
    cases hplus
  · exact hfree.marks '~' (by decide) (List.mem_cons_self ..)
  · exact hfree.marks '!' (by decide) (List.mem_cons_self ..)

/-! ### The minus sign -/

/-- A minus sign in front of a text takes an operand or begins an arrow, and is no operator. -/
theorem OperatorFree.dash_cons (h : OperatorFree s) : OperatorFree ('-' :: s) := by
  by_cases hs : s.head? = some '>'
  · obtain ⟨t, rfl⟩ := List.head?_eq_some_iff.mp hs
    have ht : OperatorFree t := by
      refine OperatorFree.of_append_right (s := ['>']) h ?_
      rintro ⟨hlast, -⟩
      exact absurd hlast (by decide)
    have hnil : OperatorFree [] := operatorFree_of_forall fun c hc => absurd hc List.not_mem_nil
    exact operatorFree_append_arrow_iff.mpr ⟨hnil, ht⟩
  · exact (operatorFree_dash_cons_iff hs).mpr h

/-- A text that is a number up to the blanks after it has no blank before it. -/
theorem trimStart_of_isUnsignedDecimal (h : Literal.isUnsignedDecimal (trimEnd s) = true) :
    trimStart s = s := by
  obtain ⟨v, hv⟩ := trimEnd_prefix s
  cases hx : trimEnd s with
  | nil =>
    rw [hx] at h
    cases h
  | cons c x =>
    rw [hx] at h hv
    have hc : isBlank c = false := by
      rcases Literal.isDigit_or_of_isUnsignedDecimal h (List.mem_cons_self ..) with hdigit | rfl
      · exact isBlank_of_isWord (isWord_of_isDigit hdigit)
      · decide
    rw [← hv]
    exact trimStart_cons hc

/-- What is left of a number without its sign is a number. -/
theorem isNumeric_trim_of_dash_cons (h : Literal.isNumeric (trim ('-' :: s)) = true) :
    Literal.isNumeric (trim s) = true := by
  have htrim : trim ('-' :: s) = '-' :: trimEnd s := trim_append_cons (by decide) [] s
  have hunsigned : Literal.isUnsignedDecimal (trimEnd s) = true := by
    rw [htrim, Literal.isNumeric, Bool.or_eq_true] at h
    exact h.resolve_right Bool.false_ne_true
  have hdecimal : Literal.isDecimal (trimEnd s) = true := by
    rw [Literal.isDecimal, Literal.unsigned_of_isUnsignedDecimal hunsigned]
    exact hunsigned
  rw [trim, trimStart_of_isUnsignedDecimal hunsigned, Literal.isNumeric, hdecimal]
  rfl

/-- A minus sign before a text that names a location keeps it from no check. -/
theorem NamesLocation.dash_cons (h : NamesLocation s) : NamesLocation ('-' :: s) := by
  refine ⟨?_, ?_, ?_⟩
  · exact h.toAdmissible.cons (by decide) (by decide) (by decide) (by decide)
      h.operatorFree.dash_cons
  · exact isBlankText_eq_false_of_mem (show isBlank '-' = false by decide) (List.mem_cons_self ..)
  · rw [Bool.eq_false_iff]
    intro hnumeric
    have hrest := isNumeric_trim_of_dash_cons hnumeric
    rw [h.notNumeric] at hrest
    cases hrest

/-! ### Signs before an editable expression -/

/-- Of the signs that compute a value from one operand, the minus sign alone leaves an editable
expression editable, and it leaves every one so. -/
theorem editable_unary_iff (he : (classify (.text e)).editable = true) (hw : isBlankText w = true)
    (hsign : sign ∈ unarySigns) :
    (classify (.text (sign :: (w ++ e)))).editable = true ↔ sign = '-' := by
  constructor
  · intro h
    rcases List.mem_cons.mp hsign with hdash | hvalue
    · exact hdash
    · rw [not_editable_of_not_admissible (not_admissible_of_valueSigns hvalue (w ++ e))] at h
      cases h
  · rintro rfl
    rw [editable_iff_namesLocation] at he ⊢
    have hcomma : ',' ∉ '-' :: w := by simpa using notMem_of_isBlankText (by decide) hw
    rw [← List.cons_append, splitSuffix_append_of_comma_notMem hcomma]
    exact (he.blanks_append hw).dash_cons

/-- The value of a member with its sign changed, shown in hex: `- p->n,x`.  Its complement is
refused. -/
theorem editable_unary_iff_member :
    (classify (.text ['p', '-', '>', 'n', ',', 'x'])).editable = true ∧
      isBlankText [' '] = true ∧
      (classify (.text ('-' :: ([' '] ++ ['p', '-', '>', 'n', ',', 'x'])))).editable = true ∧
      (classify (.text ('~' :: ([' '] ++ ['p', '-', '>', 'n', ',', 'x'])))).editable = false := by
  have he : (classify (.text ['p', '-', '>', 'n', ',', 'x'])).editable = true := by decide
  have hw : isBlankText [' '] = true := by decide
  refine ⟨he, hw, (editable_unary_iff he hw (by decide)).mpr rfl, ?_⟩
  rw [Bool.eq_false_iff]
  exact fun h => absurd ((editable_unary_iff he hw (by decide)).mp h) (by decide)

/-- The value of a name with its sign changed is editable: `-a`. -/
theorem minus_not_refused :
    ¬ ∀ (e w : List Char), (classify (.text e)).editable = true → isBlankText w = true →
      ∀ sign ∈ unarySigns, (classify (.text (sign :: (w ++ e)))).editable = false := by
  intro h
  have hrefused := h ['a'] [] (by decide) (by decide) '-' (by decide)
  exact absurd hrefused (by decide)

end WatchExpr
