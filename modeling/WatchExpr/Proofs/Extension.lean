import WatchExpr.Proofs.Admissible
import WatchExpr.Proofs.Masked
import WatchExpr.Proofs.Position

/-!
# Longer texts

What a check has found in an expression is still there when more is typed around it.

After an expression anything can be typed.  A blank text and a number are the only refused
beginnings of an expression that can become editable (`not_editable_append`).

Before an expression a text in which no subscript is left open keeps its calls and operators, but
not what is said by its first character.  One operator can be lost: a shift or a comparison with
which the expression begins is the end of an arrow after `-` (`not_editable_prepend`).
-/

namespace WatchExpr

variable {e p s t : List Char}

/-! ### Text after an expression -/

/-- No text after a refused expression makes it editable, unless it was blank or a number. -/
theorem not_editable_append {e : List Char}
    (h : (classify (.text e)).reason ∉ [.lvalue, .empty, .numericLiteral]) (t : List Char) :
    (classify (.text (e ++ t))).editable = false := by
  refine not_editable_of_not_admissible fun hadmissible => h ?_
  -- `e` has passed the checks with the whole, and so has what is left of it without its hint.
  exact reason_of_admissible (admissible_splitSuffix_iff.mpr hadmissible.of_append)

/-- A negation is not undone when `!` is continued to `!=`. -/
theorem not_editable_append_negation :
    (classify (.text ['!'])).reason ∉ [.lvalue, .empty, .numericLiteral] ∧
      (classify (.text (['!'] ++ ['=', 'a', ',', 'x']))).editable = false := by
  have h : (classify (.text ['!'])).reason ∉ [.lvalue, .empty, .numericLiteral] := by decide
  exact ⟨h, not_editable_append h ['=', 'a', ',', 'x']⟩

/-! ### Text before an expression -/

/-- The text ends in `-` and the next one begins so that the two make an arrow. -/
def MakesArrow (s t : List Char) : Prop :=
  s.getLast? = some '-' ∧ ∃ symbol ∈ arrowSymbols, symbol <+: t

instance (s t : List Char) : Decidable (MakesArrow s t) := inferInstanceAs (Decidable (_ ∧ _))

/-- What is free of operators has no operator in its second part, unless the seam makes an arrow. -/
theorem OperatorFree.of_append_right (h : OperatorFree (s ++ t)) (harrow : ¬ MakesArrow s t) :
    OperatorFree t where
  occurs op := by
    rw [Bool.eq_false_iff, ne_eq, Operator.occursIn_iff]
    rintro ⟨i, -, hi⟩
    have hplace : op.StandsAt (s ++ t) (s.length + i) :=
      hi.append_left fun hsymbol hstart hlast => harrow ⟨hlast, op.symbol, hsymbol, hstart⟩
    have hoccurs := Operator.occursIn_iff.mpr ⟨_, hplace.lt_length, hplace⟩
    rw [h.occurs op] at hoccurs
    cases hoccurs
  joins sign hsign := by
    rw [Bool.eq_false_iff]
    intro ht
    have hst := h.joins sign hsign
    rw [joins_append_left ht] at hst
    cases hst
  marks c hc ht := h.marks c hc (List.mem_append_right s ht)

/-- The seam of two texts makes an arrow where that of their masked views does. -/
theorem makesArrow_of_mask (h : MakesArrow (Subscript.mask s) (Subscript.mask t)) :
    MakesArrow s t := by
  obtain ⟨hlast, symbol, hsymbol, hstart⟩ := h
  have hall : ∀ symbol ∈ arrowSymbols, BracketFree symbol := by decide
  exact ⟨Subscript.getLast?_of_getLast?_mask (by decide) (by decide) hlast, symbol, hsymbol,
    Subscript.prefix_of_prefix_mask (hall symbol hsymbol) hstart⟩

/-- The reasons that a text in front of an expression can take away: what the expression begins with
is not looked at any more, and what was blank or a number need not be. -/
theorem reason_of_callFree (hcall : hasCall e = false)
    (hoperator : OperatorFree (Subscript.mask e)) :
    (classify (.text e)).reason ∈
      [.lvalue, .empty, .numericLiteral, .quotedLiteral, .parenthesized] := by
  rw [reason_classify, laterReason, hcall, operatorRefusal?_eq_none_iff_free.mpr hoperator]
  split_ifs <;> simp_all

/-- No text in front of an expression makes up for a call or an operator in it, if all subscripts
are closed in that text and it does not make an arrow of the operator. -/
theorem not_editable_prepend (h : (classify (.text e)).reason ∈ .call :: operatorReasons)
    (hdepth : Subscript.depth p = 0) (harrow : ¬ MakesArrow p e) :
    (classify (.text (p ++ e))).editable = false := by
  apply not_editable_of_not_admissible
  intro hadmissible
  have hoperator := hadmissible.operatorFree
  rw [Subscript.mask_append_of_depth hdepth] at hoperator
  have hreason := reason_of_callFree (hasCall_of_append_right hadmissible.callFree)
    (hoperator.of_append_right (mt makesArrow_of_mask harrow))
  have hdisjoint : ∀ r ∈ Reason.call :: operatorReasons,
      r ∉ [.lvalue, .empty, .numericLiteral, .quotedLiteral, .parenthesized] := by decide
  exact hdisjoint _ h hreason

/-- With a blank between them, a minus sign and a shift make no arrow. -/
theorem not_editable_prepend_shift :
    (classify (.text [' ', '>', '>', 'b'])).reason ∈ .call :: operatorReasons ∧
      Subscript.depth ['m', '[', 'i', ']', '-'] = 0 ∧
      ¬ MakesArrow ['m', '[', 'i', ']', '-'] [' ', '>', '>', 'b'] ∧
      (classify (.text (['m', '[', 'i', ']', '-'] ++ [' ', '>', '>', 'b']))).editable = false := by
  have hreason : (classify (.text [' ', '>', '>', 'b'])).reason ∈ .call :: operatorReasons := by
    decide
  have hdepth : Subscript.depth ['m', '[', 'i', ']', '-'] = 0 := by decide
  have harrow : ¬ MakesArrow ['m', '[', 'i', ']', '-'] [' ', '>', '>', 'b'] := by decide
  exact ⟨hreason, hdepth, harrow, not_editable_prepend hreason hdepth harrow⟩

/-- Without the blank they do, and the shift is no operator any more. -/
example : MakesArrow ['a', '-'] ['>', '>', 'b'] ∧
    (classify (.text ['>', '>', 'b'])).reason = .binaryOperator ∧
    (classify (.text ['a', '-', '>', '>', 'b'])).editable = true := by decide

end WatchExpr
