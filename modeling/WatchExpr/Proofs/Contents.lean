import WatchExpr.Proofs.Admissible

/-!
# The contents of a subscript

Of what stands inside a subscript, nothing but its brackets gets into the verdict's masked view, and
nothing at all into the rest of the verdict, as long as the brackets are balanced and there is no
call among them (`classify_subscript_eq`).  The display hint and the blanks at the ends lie outside
the subscript.  The checks on the form of the text can be told from what is outside
(`formRefusal?_subscript`), and the brackets and placeholders that are left in the masked view have
no part in the search for operators (`operatorRefusal?_brackets`).
-/

namespace WatchExpr

variable {c : List Char} {p s t : List Char}

/-- The checks on the form of a text with a subscript, told from what is outside the subscript. -/
theorem formRefusal?_subscript (hcall : hasCall c = false) (p s : List Char) :
    formRefusal? (p ++ '[' :: (c ++ ']' :: s)) =
      if p.head? = some '"' ∨ p.head? = some '\'' then some .quotedLiteral
      else if hasCall p || hasCall s then some .call
      else if opening p = some '(' then some .parenthesized
      else none := by
  have hnumeric : Literal.isNumeric (p ++ '[' :: (c ++ ']' :: s)) = false := by
    rw [Bool.eq_false_iff]
    intro h
    -- There are no brackets in a number.
    have hbracket := Literal.isWord_or_of_isNumeric h (show '[' ∈ _ by simp)
    exact absurd hbracket (by decide)
  have hquoted : Literal.isQuoted (p ++ '[' :: (c ++ ']' :: s)) = true ↔
      p.head? = some '"' ∨ p.head? = some '\'' := by
    rw [Literal.isQuoted_iff]
    cases p <;> simp
  have hcalls : hasCall (p ++ '[' :: (c ++ ']' :: s)) = (hasCall p || hasCall s) := by
    rw [hasCall_append_cons (by decide) (by decide) (by decide),
      hasCall_append_cons (by decide) (by decide) (by decide), hcall, Bool.false_or]
  have hparen : hasLeadingParen (p ++ '[' :: (c ++ ']' :: s)) = true ↔ opening p = some '(' := by
    have hbracket : isBlank '[' = false := by decide
    rw [hasLeadingParen_iff, opening_append, opening_cons hbracket]
    cases opening p <;> simp
  rw [formRefusal?_eq, hnumeric, hcalls]
  simp only [hquoted, hparen, Bool.false_eq_true, if_false]

/-- Brackets and placeholders inside a subscript have no part in the search for operators. -/
theorem operatorRefusal?_brackets {x : List Char}
    (hx : ∀ c ∈ x, c = '[' ∨ c = ']' ∨ c = Subscript.placeholder) (s t : List Char) :
    operatorRefusal? (s ++ '[' :: (x ++ Subscript.placeholder :: ']' :: t))
      = operatorRefusal? (s ++ '[' :: Subscript.placeholder :: ']' :: t) := by
  have hplain : ∀ c ∈ x, c ∉ operatorChars := by
    intro c hc
    rcases hx c hc with rfl | rfl | rfl <;> decide
  refine operatorRefusal?_congr (fun op => ?_) (fun sign hsign => ?_) fun d hd => ?_
  · have hseam := occursIn_append_separator (c := '[') (by decide) op s
    rw [hseam, hseam]
    refine congrArg _ (Operator.occursFrom_append_of_notMem (fun c hc => ⟨?_, ?_⟩) _)
    · exact notMem_symbol (hplain c hc) op
    · exact (ne_of_mem_of_not_mem (by decide) (hplain c hc)).symm
  · have hnotMem : sign ∉ x :=
      fun h => hplain sign h (mem_operatorChars_of_mem_jointSigns hsign)
    have hbracket : '[' ≠ sign := by
      rintro rfl
      exact absurd hsign (by decide)
    have hseam := Joint.joinsFrom_append_cons (c := '[') (by decide) (by decide) hbracket .nothing s
    -- Whatever has been read before the placeholder, unless it is the sign, is forgotten there.
    have hoperand : ∀ j, j ≠ Joint.sign →
        Joint.joinsFrom sign j (Subscript.placeholder :: ']' :: t)
          = Joint.joinsFrom sign .operand (']' :: t) := by
      intro j hj
      rw [Joint.joinsFrom_cons, Joint.step_of_isOperandEnd (by decide)]
      simp [hj]
    rw [joins, joins, hseam, hseam, Joint.joinsFrom_append,
      Joint.joinsFrom_eq_false hnotMem (by decide), Bool.false_or,
      hoperand _ (Joint.foldl_step_ne_sign hnotMem (by decide)), hoperand _ (by decide)]
  · have hnotMem : d ∉ x :=
      fun h => hplain d h (mem_operatorChars_of_mem_computingMarks hd)
    simp [hnotMem]

/-- A text with a subscript is judged by its form and by its masked view. -/
theorem judge_subscript (p c s : List Char) :
    Verdict.judge (p ++ '[' :: (c ++ ']' :: s)) =
      match formRefusal? (p ++ '[' :: (c ++ ']' :: s)) with
      | some r => (none, r)
      | none => (some (Subscript.mask (p ++ '[' :: (c ++ ']' :: s))),
          (operatorRefusal? (Subscript.mask (p ++ '[' :: (c ++ ']' :: s)))).getD .lvalue) := by
  rw [Verdict.judge_eq]
  exact if_neg (by simp)

/-- Neither the reason nor, without inner brackets, the masked view depends on what stands inside a
subscript. -/
theorem judge_subscript_eq {c₁ c₂ : List Char} (h₁ : Balanced c₁) (h₂ : Balanced c₂)
    (hcall₁ : hasCall c₁ = false) (hcall₂ : hasCall c₂ = false) (p s : List Char) :
    (Verdict.judge (p ++ '[' :: (c₁ ++ ']' :: s))).2
        = (Verdict.judge (p ++ '[' :: (c₂ ++ ']' :: s))).2 ∧
      (BracketFree c₁ → BracketFree c₂ → (Verdict.judge (p ++ '[' :: (c₁ ++ ']' :: s))).1
        = (Verdict.judge (p ++ '[' :: (c₂ ++ ']' :: s))).1) := by
  have hmask : ∀ c, Balanced c → Subscript.mask (p ++ '[' :: (c ++ ']' :: s))
      = Subscript.mask p ++ '[' :: (Subscript.maskFrom (Subscript.depth p + 1) c ++
        Subscript.placeholder :: ']' :: Subscript.maskFrom (Subscript.depth p) s) := fun c hc => by
    rw [Subscript.mask_append, Subscript.maskFrom_subscript hc]
  have hform : formRefusal? (p ++ '[' :: (c₁ ++ ']' :: s))
      = formRefusal? (p ++ '[' :: (c₂ ++ ']' :: s)) := by
    rw [formRefusal?_subscript hcall₁, formRefusal?_subscript hcall₂]
  rw [judge_subscript, judge_subscript, hform]
  -- Both texts are refused for their form, or neither is and the masked views are compared.
  cases formRefusal? (p ++ '[' :: (c₂ ++ ']' :: s)) with
  | some r => exact ⟨rfl, fun _ _ => rfl⟩
  | none =>
    constructor
    · show (operatorRefusal? _).getD .lvalue = (operatorRefusal? _).getD .lvalue
      rw [hmask c₁ h₁, hmask c₂ h₂,
        operatorRefusal?_brackets (Subscript.mem_maskFrom_of_balanced h₁ _),
        operatorRefusal?_brackets (Subscript.mem_maskFrom_of_balanced h₂ _)]
    · intro hfree₁ hfree₂
      show some (Subscript.mask _) = some (Subscript.mask _)
      rw [hmask c₁ h₁, hmask c₂ h₂, Subscript.maskFrom_of_bracketFree hfree₁,
        Subscript.maskFrom_of_bracketFree hfree₂]
      rfl

/-- The hint and the blanks at the ends are taken off outside a subscript. -/
theorem classify_subscript (p c s : List Char) :
    (classify (.text (p ++ '[' :: (c ++ ']' :: s)))).letter = (splitSuffix s).2 ∧
      (classify (.text (p ++ '[' :: (c ++ ']' :: s)))).base
        = trimStart p ++ '[' :: (c ++ ']' :: trimEnd (splitSuffix s).1) := by
  have hsplit : splitSuffix (p ++ '[' :: (c ++ ']' :: s))
      = (p ++ '[' :: (c ++ ']' :: (splitSuffix s).1), (splitSuffix s).2) := by
    -- The bracket that closes the subscript is no letter of a hint.
    have hassoc : ∀ r, p ++ '[' :: (c ++ ']' :: r) = (p ++ '[' :: c) ++ ']' :: r := by simp
    rw [hassoc, splitSuffix_append_cons rfl (by decide), ← hassoc]
  constructor
  · show (splitSuffix _).2 = _
    rw [hsplit]
  · show trim (splitSuffix _).1 = _
    rw [hsplit, trim_append_cons (by decide), trimEnd_append_cons (by decide)]

/-- Two balanced texts without calls can take each other's place inside a subscript, whatever stands
around it: the verdicts differ in what was typed and in the inner brackets of the masked view. -/
theorem classify_subscript_eq {c₁ c₂ : List Char} (h₁ : Balanced c₁) (h₂ : Balanced c₂)
    (hcall₁ : ¬ HoldsCall c₁) (hcall₂ : ¬ HoldsCall c₂) (p s : List Char) :
    let v₁ := classify (.text (p ++ '[' :: (c₁ ++ ']' :: s)))
    let v₂ := classify (.text (p ++ '[' :: (c₂ ++ ']' :: s)))
    v₁.editable = v₂.editable ∧ v₁.reason = v₂.reason ∧ v₁.detail = v₂.detail ∧
      v₁.letter = v₂.letter ∧ v₁.displayFormat = v₂.displayFormat ∧
      (BracketFree c₁ → BracketFree c₂ → v₁.masked = v₂.masked) := by
  intro v₁ v₂
  obtain ⟨hletter₁, hbase₁⟩ := classify_subscript p c₁ s
  obtain ⟨hletter₂, hbase₂⟩ := classify_subscript p c₂ s
  rw [← hasCall_iff, Bool.not_eq_true] at hcall₁ hcall₂
  obtain ⟨hreason, hmasked⟩ :=
    judge_subscript_eq h₁ h₂ hcall₁ hcall₂ (trimStart p) (trimEnd (splitSuffix s).1)
  rw [← hbase₁, ← hbase₂] at hreason hmasked
  have hreason' : v₁.reason = v₂.reason := hreason
  have hletter : v₁.letter = v₂.letter := hletter₁.trans hletter₂.symm
  refine ⟨?_, hreason', ?_, hletter, ?_, hmasked⟩
  · rw [Verdict.editable, Verdict.editable, hreason']
  · rw [Verdict.detail, Verdict.detail, hreason']
  · rw [Verdict.displayFormat, Verdict.displayFormat, hletter]

/-- A sum and a pointer's target as subscripts between brackets without a match. -/
theorem classify_subscript_eq_sum :
    Balanced ['i', '+', '1'] ∧ Balanced ['*', 'k'] ∧ ¬ HoldsCall ['i', '+', '1'] ∧
      ¬ HoldsCall ['*', 'k'] ∧
      (classify (.text ['m', ']', '[', 'i', '+', '1', ']', '[', 'n', ',', 'h'])).reason
        = (classify (.text ['m', ']', '[', '*', 'k', ']', '[', 'n', ',', 'h'])).reason ∧
      (classify (.text ['m', ']', '[', 'i', '+', '1', ']', '[', 'n', ',', 'h'])).masked
        = (classify (.text ['m', ']', '[', '*', 'k', ']', '[', 'n', ',', 'h'])).masked := by
  have hsum : Balanced ['i', '+', '1'] := by decide
  have htarget : Balanced ['*', 'k'] := by decide
  have hcall₁ : ¬ HoldsCall ['i', '+', '1'] := fun h => absurd (hasCall_iff.mpr h) (by decide)
  have hcall₂ : ¬ HoldsCall ['*', 'k'] := fun h => absurd (hasCall_iff.mpr h) (by decide)
  obtain ⟨-, hreason, -, -, -, hmasked⟩ :=
    classify_subscript_eq hsum htarget hcall₁ hcall₂ ['m', ']'] ['[', 'n', ',', 'h']
  exact ⟨hsum, htarget, hcall₁, hcall₂, hreason, hmasked (by decide) (by decide)⟩

end WatchExpr
