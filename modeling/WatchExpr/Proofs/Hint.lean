import WatchExpr.Proofs.Admissible

/-!
# Where a display hint is not transparent

A display hint says how a value is shown, and should have no part in whether the value can be
written.  The hint is looked for once, at the very end of what was typed, so that a hint with
another one or a blank after it is judged as part of the expression.  Nothing comes of that except
where the text before the hint is blank or a number, which is then no longer seen: `HintedValue s`
says that `s` is such a text.  With its hint in it `s` passes all the checks (`reason_with_hint`),
and without it `s` is refused.

So a hint leaves the reason of the expression before it as it is unless that expression is a
`HintedValue` (`hint_transparent_iff`), and blanks around an expression leave it as editable as it
is unless they come after a `HintedValue` (`isEditable_blanks_iff`).
-/

namespace WatchExpr

variable {b e s u v : List Char} {l : FormatLetter}

/-- The text ends in a display hint, and before the hint stands nothing or a number. -/
def HintedValue (s : List Char) : Prop :=
  (splitSuffix s).2 ≠ none ∧
    (isBlankText (splitSuffix s).1 = true ∨ Literal.isNumeric (trim (splitSuffix s).1) = true)

instance (s : List Char) : Decidable (HintedValue s) := inferInstanceAs (Decidable (_ ∧ _))

/-! ### Nothing and numbers -/

theorem admissible_of_isNumeric (h : Literal.isNumeric s = true) : Admissible s := by
  have hchars : ∀ c ∈ s, c ∉ ['"', '\'', '(', '[', ']'] := by
    intro c hc
    rcases Literal.isWord_or_of_isNumeric h hc with hword | rfl | rfl
    · exact notMem_of_any_eq_false (by decide) hword
    · decide
    · decide
  have hbracket : BracketFree s :=
    ⟨fun hc => hchars _ hc (by decide), fun hc => hchars _ hc (by decide)⟩
  have hoperator : OperatorFree s := by
    obtain ⟨t, hs, ht⟩ := Literal.exists_unsigned_of_isNumeric h
    have hplain : ∀ c ∈ t, c ∉ operatorChars := by
      intro c hc
      rcases ht c hc with hword | rfl
      · exact notMem_operatorChars_of_isWord hword
      · decide
    have hfree := operatorFree_of_forall hplain
    rcases hs with rfl | rfl
    · exact hfree
    · refine (operatorFree_dash_cons_iff fun hhead => ?_).mpr hfree
      exact hplain '>' (List.mem_of_head? hhead) (by decide)
  refine ⟨fun c hc hrefused => ?_, ?_, ?_⟩
  · obtain ⟨-, u, r, -, rfl⟩ := opening_eq_some_iff.mp hc
    exact hchars c (by simp) (List.mem_append_left ['[', ']'] hrefused)
  · exact Callee.hasCallFrom_eq_false (fun hc => hchars _ hc (by decide)) .absent
  · rw [Subscript.mask_of_bracketFree hbracket]
    exact hoperator

/-- The checks after the one for numbers find nothing in a number. -/
theorem laterReason_of_isNumeric (h : Literal.isNumeric (trim s) = true) :
    laterReason s = .lvalue := by
  rw [← laterReason_trim]
  exact laterReason_eq_lvalue_iff.mpr (admissible_of_isNumeric h)

theorem laterReason_of_isBlankText (h : isBlankText s = true) : laterReason s = .lvalue := by
  rw [← laterReason_trim, trim_eq_nil_of_isBlankText h]
  rfl

/-! ### Expressions that keep a hint -/

theorem comma_mem_of_hint (h : (splitSuffix s).2 ≠ none) : ',' ∈ s := by
  by_contra hcomma
  rw [splitSuffix_of_comma_notMem hcomma] at h
  exact h rfl

/-- A text with a comma in it is neither blank nor a number. -/
theorem reason_judge_trim_of_comma (h : ',' ∈ s) : (Verdict.judge (trim s)).2 = laterReason s := by
  have hblank : isBlankText s = false := isBlankText_eq_false_of_mem (by decide) h
  have hnumeric : Literal.isNumeric (trim s) = false :=
    isNumeric_trim_of_mem h (by decide) (by decide) (by decide) (by decide)
  rw [reason_judge_trim, hblank, hnumeric]
  rfl

theorem reason_ne_lvalue (h : HintedValue s) : (classify (.text s)).reason ≠ .lvalue := by
  rw [reason_classify]
  rcases h.2 with hblank | hnumeric
  · rw [if_pos hblank]
    decide
  · split_ifs <;> decide

/-- A text that is judged with its hint has the reason that it has without, except where the hint
alone keeps nothing or a number from being seen. -/
theorem reason_with_hint (s : List Char) :
    (Verdict.judge (trim s)).2 =
      if HintedValue s then .lvalue else (classify (.text s)).reason := by
  by_cases hhint : (splitSuffix s).2 = none
  · rw [if_neg fun h => h.1 hhint, reason_judge_trim, reason_classify, splitSuffix_fst_of_snd hhint]
  · rw [reason_judge_trim_of_comma (comma_mem_of_hint hhint)]
    split_ifs with h
    · rw [← laterReason_splitSuffix]
      exact h.2.elim laterReason_of_isBlankText laterReason_of_isNumeric
    · have hvalue := not_or.mp fun hvalue => h ⟨hhint, hvalue⟩
      rw [reason_classify, if_neg hvalue.1, if_neg hvalue.2]

/-! ### The hint and the blanks around it -/

/-- A hint leaves the verdict on the expression before it as it is, except where that expression is
itself a hint with nothing or a number before it. -/
theorem hint_transparent_iff (h : splitSuffix e = (b, some l)) :
    ((classify (.text e)).editable = (classify (.text b)).editable ∧
        (classify (.text e)).reason = (classify (.text b)).reason) ↔
      ¬ HintedValue b := by
  have hreason : (classify (.text e)).reason = (Verdict.judge (trim b)).2 := by
    show (Verdict.judge (trim (splitSuffix e).1)).2 = _
    rw [h]
  rw [reason_with_hint] at hreason
  constructor
  · rintro ⟨-, hsame⟩ hb
    rw [hreason, if_pos hb] at hsame
    exact reason_ne_lvalue hb hsame.symm
  · intro hb
    rw [if_neg hb] at hreason
    exact ⟨by rw [Verdict.editable, hreason, Verdict.editable], hreason⟩

/-- A second hint hides the number before the first one: `42,h` is refused and `42,h,x` is not. -/
theorem second_hint_not_transparent :
    ¬ ∀ (e b : List Char) (l : FormatLetter), splitSuffix e = (b, some l) →
      (classify (.text e)).editable = (classify (.text b)).editable ∧
        (classify (.text e)).reason = (classify (.text b)).reason := by
  intro h
  obtain ⟨heditable, -⟩ := h ['4', '2', ',', 'h', ',', 'x'] ['4', '2', ',', 'h'] .x (by decide)
  exact absurd heditable (by decide)

/-- Two hints after a difference: it is refused for the same reason with both and with the first. -/
theorem hint_transparent_iff_difference :
    splitSuffix ['a', '-', '1', ',', 'x', ',', 'd'] = (['a', '-', '1', ',', 'x'], some .d) ∧
      ¬ HintedValue ['a', '-', '1', ',', 'x'] ∧
      (classify (.text ['a', '-', '1', ',', 'x', ',', 'd'])).reason
        = (classify (.text ['a', '-', '1', ',', 'x'])).reason := by
  have hsplit :
      splitSuffix ['a', '-', '1', ',', 'x', ',', 'd'] = (['a', '-', '1', ',', 'x'], some .d) := by
    decide
  have hvalue : ¬ HintedValue ['a', '-', '1', ',', 'x'] := by decide
  exact ⟨hsplit, hvalue, ((hint_transparent_iff hsplit).mpr hvalue).2⟩

/-- Blanks around an expression leave it as editable as it is, except after a hint with nothing or a
number before it. -/
theorem isEditable_blanks_iff (hu : isBlankText u = true) (hv : isBlankText v = true) :
    isEditable (.text (u ++ (s ++ v))) = isEditable (.text s) ↔ ¬ (v ≠ [] ∧ HintedValue s) := by
  have hreason : (classify (.text (u ++ (s ++ v)))).reason
      = (Verdict.judge (stripSuffix (s ++ v))).2 := by
    show (Verdict.judge (stripSuffix _)).2 = _
    rw [stripSuffix_blanks_append hu]
  have heditable : ∀ t, isEditable (.text t) = ((classify (.text t)).reason == .lvalue) :=
    fun _ => rfl
  rw [heditable, heditable, hreason]
  by_cases hne : v = []
  · rw [hne, List.append_nil]
    exact iff_of_true rfl fun h => h.1 rfl
  rw [stripSuffix_append_blanks hv hne, reason_with_hint]
  split_ifs with hs
  · refine iff_of_false (fun h => reason_ne_lvalue hs ?_) fun h => h ⟨hne, hs⟩
    exact beq_iff_eq.mp (h.symm.trans (beq_self_eq_true _))
  · exact iff_of_true rfl fun h => hs h.2

/-- A blank after a hint makes the hint part of the expression: `42,h` is refused, `42,h ` is
not. -/
theorem blank_after_hint_not_neutral :
    ¬ ∀ s u v : List Char, isBlankText u = true → isBlankText v = true →
      isEditable (.text (u ++ (s ++ v))) = isEditable (.text s) := by
  intro h
  exact absurd (h ['4', '2', ',', 'h'] [] [' '] (by decide) (by decide)) (by decide)

/-- Blanks on both sides of an element with a hint. -/
theorem isEditable_blanks_iff_element :
    isBlankText [' '] = true ∧ isBlankText ['\n', ' '] = true ∧
      isEditable (.text ([' '] ++ (['m', '[', 'i', ']', ',', 'x'] ++ ['\n', ' '])))
        = isEditable (.text ['m', '[', 'i', ']', ',', 'x']) := by
  have hu : isBlankText [' '] = true := by decide
  have hv : isBlankText ['\n', ' '] = true := by decide
  exact ⟨hu, hv, (isEditable_blanks_iff hu hv).mpr (by decide)⟩

end WatchExpr
