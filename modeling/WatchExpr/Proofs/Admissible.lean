import Mathlib.Tactic.SplitIfs
import WatchExpr.Verdict
import WatchExpr.Proofs.Literal
import WatchExpr.Proofs.Refusal
import WatchExpr.Proofs.Run
import WatchExpr.Proofs.Subscript
import WatchExpr.Proofs.Suffix

/-!
# What makes an expression editable

`laterReason s` is the reason that is left for a text that is neither blank nor a number.  It is
told from how the text begins, from the calls in it and from the operators of its masked view, so
that neither blanks at the ends (`laterReason_trim`) nor a display hint (`laterReason_splitSuffix`)
have a part in it.  The reason of a verdict is one of the first two, which are found in what is left
without the hint, or else this one (`reason_classify`).

`Admissible s` collects what the later checks ask of a text, and `NamesLocation s` adds that it is
not blank and no number.  An expression is editable exactly when what is left of it without the hint
names a location (`editable_iff_namesLocation`).  Both are stated for texts that are not trimmed,
because they then carry over from the parts of a text to the whole and back: from a text to its
beginning (`Admissible.of_append`), to the text with blanks around it, and to the text with its
display hint (`admissible_splitSuffix_iff`).
-/

namespace WatchExpr

variable {c : Char} {s t u : List Char}

/-! ### The checks after the one for numbers -/

/-- The characters that an expression must not begin with. -/
def refusedOpenings : List Char := ['"', '\'', '(']

theorem notMem_refusedOpenings_of_isWord (h : isWord c = true) : c ∉ refusedOpenings :=
  notMem_of_any_eq_false (by decide) h

theorem notMem_refusedOpenings_of_isBlank (h : isBlank c = true) : c ∉ refusedOpenings :=
  notMem_of_any_eq_false (by decide) h

/-- The reason that is left for a text that is neither blank nor a number. -/
def laterReason (s : List Char) : Reason :=
  if opening s = some '"' ∨ opening s = some '\'' then .quotedLiteral
  else if hasCall s then .call
  else if opening s = some '(' then .parenthesized
  else (operatorRefusal? (Subscript.mask s)).getD .lvalue

/-- Two texts that begin alike, and in which the same calls and operators are found, have the same
reason. -/
theorem laterReason_congr
    (hopening : ∀ c ∈ refusedOpenings, opening s = some c ↔ opening t = some c)
    (hcall : hasCall s = hasCall t)
    (hoperator : operatorRefusal? (Subscript.mask s) = operatorRefusal? (Subscript.mask t)) :
    laterReason s = laterReason t := by
  unfold laterReason
  simp only [hopening '"' (by decide), hopening '\'' (by decide), hopening '(' (by decide), hcall,
    hoperator]

theorem laterReason_blanks_append (hu : isBlankText u = true) (s : List Char) :
    laterReason (u ++ s) = laterReason s := by
  refine laterReason_congr (fun c _ => ?_) ?_ ?_
  · rw [opening_blanks_append hu]
  · exact hasCall_blanks_append hu s
  · rw [Subscript.mask_bracketFree_append (bracketFree_of_isBlankText hu),
      operatorRefusal?_blanks_append hu]

/-- A text without brackets, refused openings and operators has no part in the reason where it comes
last, as long as it does not begin as an operand. -/
theorem laterReason_append (hbracket : BracketFree t)
    (hrefused : ∀ c ∈ t, c ∉ refusedOpenings) (hoperator : ∀ c ∈ t, c ∉ operatorChars)
    (hend : ∀ d, opening t = some d → isOperandEnd d = false) (s : List Char) :
    laterReason (s ++ t) = laterReason s := by
  refine laterReason_congr (fun c hc => ?_) ?_ ?_
  · have hopening : opening t ≠ some c := by
      intro h
      obtain ⟨-, u, r, -, rfl⟩ := opening_eq_some_iff.mp h
      exact hrefused c (by simp) hc
    rw [opening_append, Option.or_eq_some_iff]
    simp [hopening]
  · exact hasCall_append_of_notMem (fun h => hrefused _ h (by decide)) s
  · rcases Subscript.mask_append_of_bracketFree hbracket s with hmask | hmask
    · rw [hmask, operatorRefusal?_append hoperator hend]
    · rw [hmask]

theorem laterReason_append_blanks (hu : isBlankText u = true) (s : List Char) :
    laterReason (s ++ u) = laterReason s := by
  have hblank := isBlankText_iff.mp hu
  refine laterReason_append (bracketFree_of_isBlankText hu)
    (fun c hc => notMem_refusedOpenings_of_isBlank (hblank c hc))
    (notMem_operatorChars_of_isBlankText hu) (fun d hd => ?_) s
  rw [opening_eq_none_iff.mpr hu] at hd
  cases hd

theorem laterReason_trim (s : List Char) : laterReason (trim s) = laterReason s := by
  obtain ⟨u, v, hu, hv, hs⟩ := exists_blanks_trim s
  have h : laterReason s = laterReason (u ++ (trim s ++ v)) := congrArg laterReason hs
  rw [h, laterReason_blanks_append hu, laterReason_append_blanks hv]

/-- The hint at the end of a text has no part in what these checks find. -/
theorem laterReason_splitSuffix (s : List Char) :
    laterReason (splitSuffix s).1 = laterReason s := by
  rcases splitSuffix_fst_cases s with hs | ⟨c, hc, hs⟩
  · rw [hs]
  have hword : ∀ d ∈ [c], isWord d = true := by simpa using hc
  have hreason : laterReason ((splitSuffix s).1 ++ [',', c]) = laterReason (splitSuffix s).1 := by
    refine laterReason_append ?_ (fun d hd => ?_) (fun d hd => ?_) (fun d hd => ?_) _
    · exact bracketFree_cons.mpr ⟨by decide, bracketFree_of_forall_isWord hword⟩
    · rcases List.mem_cons.mp hd with rfl | hd
      · decide
      · exact notMem_refusedOpenings_of_isWord (hword d hd)
    · rcases List.mem_cons.mp hd with rfl | hd
      · decide
      · exact notMem_operatorChars_of_isWord (hword d hd)
    · have hcomma : opening [',', c] = some ',' := rfl
      rw [hcomma] at hd
      rw [← Option.some.inj hd]
      decide
  rw [← hs] at hreason
  exact hreason.symm

/-! ### Admissible texts -/

/-- The text passes every check but the one for numbers. -/
structure Admissible (s : List Char) : Prop where
  /-- It does not begin as a text or character literal, a cast or a grouping. -/
  opening : ∀ c, opening s = some c → c ∉ refusedOpenings
  /-- There is no call in it. -/
  callFree : hasCall s = false
  /-- It has no operator outside its subscripts. -/
  operatorFree : OperatorFree (Subscript.mask s)

theorem laterReason_eq_lvalue_iff : laterReason s = .lvalue ↔ Admissible s := by
  have hoperator : (operatorRefusal? (Subscript.mask s)).getD .lvalue = .lvalue ↔
      OperatorFree (Subscript.mask s) := by
    rw [← operatorRefusal?_eq_none_iff_free]
    cases h : operatorRefusal? (Subscript.mask s) with
    | none => simp
    | some r =>
      have hr : r ≠ .lvalue := fun hr => operatorRefusal?_ne_lvalue _ (hr ▸ h)
      simpa using hr
  have hopening : (∀ c, opening s = some c → c ∉ refusedOpenings) ↔
      ¬ (opening s = some '"' ∨ opening s = some '\'') ∧ ¬ opening s = some '(' := by
    cases opening s <;> simp [refusedOpenings, and_assoc]
  rw [laterReason]
  constructor
  · intro h
    split_ifs at h with hquoted hcall hparen
    exact ⟨hopening.mpr ⟨hquoted, hparen⟩, Bool.eq_false_iff.mpr hcall, hoperator.mp h⟩
  · intro h
    obtain ⟨hquoted, hparen⟩ := hopening.mp h.opening
    rw [if_neg hquoted, if_neg (Bool.eq_false_iff.mp h.callFree), if_neg hparen]
    exact hoperator.mpr h.operatorFree

theorem Admissible.of_append (h : Admissible (s ++ t)) : Admissible s where
  opening c hc := h.opening c (by rw [opening_append, hc]; rfl)
  callFree := hasCall_of_append h.callFree
  operatorFree := by
    have hmask := h.operatorFree
    rw [Subscript.mask_append] at hmask
    exact hmask.of_append

/-- A text without brackets, quotation marks and parentheses keeps the whole admissible when it
brings no operator. -/
theorem Admissible.append (h : Admissible s) (hbracket : BracketFree t)
    (hopening : ∀ c ∈ t, c ∉ refusedOpenings)
    (hoperator : ∀ x, OperatorFree x → OperatorFree (x ++ t)) : Admissible (s ++ t) where
  opening c hc := by
    rw [opening_append, Option.or_eq_some_iff] at hc
    rcases hc with hc | ⟨-, hc⟩
    · exact h.opening c hc
    · obtain ⟨-, u, r, -, rfl⟩ := opening_eq_some_iff.mp hc
      exact hopening c (by simp)
  callFree := by
    rw [hasCall_append_of_notMem fun hc => hopening _ hc (by decide)]
    exact h.callFree
  operatorFree := by
    rcases Subscript.mask_append_of_bracketFree hbracket s with hmask | hmask
    · rw [hmask]
      exact hoperator _ h.operatorFree
    · rw [hmask]
      exact h.operatorFree

/-- A sign in front keeps a text admissible when it makes no operator with what comes after it. -/
theorem Admissible.cons (h : Admissible s) (hopening : c ∉ refusedOpenings)
    (hblank : isBlank c = false) (hword : isWord c = false) (hbracket : BracketFree [c])
    (hoperator : OperatorFree (c :: Subscript.mask s)) : Admissible (c :: s) where
  opening d hd := by
    rw [opening_cons hblank] at hd
    rwa [← Option.some.inj hd]
  callFree := by
    rw [hasCall_cons_of_not_isWord hword]
    exact h.callFree
  operatorFree := by
    rw [Subscript.mask_cons hbracket]
    exact hoperator

theorem admissible_blanks_append_iff (hu : isBlankText u = true) :
    Admissible (u ++ s) ↔ Admissible s := by
  rw [← laterReason_eq_lvalue_iff, laterReason_blanks_append hu, laterReason_eq_lvalue_iff]

theorem admissible_append_blanks_iff (hu : isBlankText u = true) :
    Admissible (s ++ u) ↔ Admissible s := by
  rw [← laterReason_eq_lvalue_iff, laterReason_append_blanks hu, laterReason_eq_lvalue_iff]

/-- A text is admissible whether it is taken with its display hint or without. -/
theorem admissible_splitSuffix_iff : Admissible (splitSuffix s).1 ↔ Admissible s := by
  rw [← laterReason_eq_lvalue_iff, laterReason_splitSuffix, laterReason_eq_lvalue_iff]

/-- A display hint does not make an admissible text inadmissible. -/
theorem Admissible.of_splitSuffix (h : Admissible (splitSuffix s).1) : Admissible s :=
  admissible_splitSuffix_iff.mp h

/-! ### Editable expressions -/

/-- A text with a character that no number can hold is no number. -/
theorem isNumeric_trim_of_mem {x : Char} (hx : x ∈ s) (hword : isWord x = false)
    (hblank : isBlank x = false) (hdash : x ≠ '-') (hpoint : x ≠ '.') :
    Literal.isNumeric (trim s) = false := by
  rw [Bool.eq_false_iff]
  intro hnumeric
  rcases Literal.isWord_or_of_isNumeric hnumeric (mem_trim hblank hx) with h | h | h
  · rw [h] at hword
    cases hword
  · exact hdash h
  · exact hpoint h

/-- The text names a location, whatever blanks are around it. -/
structure NamesLocation (s : List Char) : Prop extends Admissible s where
  notBlank : isBlankText s = false
  notNumeric : Literal.isNumeric (trim s) = false

/-- The checks on a trimmed text, one after the other. -/
theorem reason_judge_trim (s : List Char) :
    (Verdict.judge (trim s)).2 =
      if isBlankText s then .empty
      else if Literal.isNumeric (trim s) then .numericLiteral
      else laterReason s := by
  cases hblank : isBlankText s with
  | true =>
    rw [trim_eq_nil_of_isBlankText hblank]
    rfl
  | false =>
    have hempty : (trim s).isEmpty = false := by
      rw [Bool.eq_false_iff, ne_eq, List.isEmpty_iff, trim_eq_nil_iff, hblank]
      decide
    have hquoted : Literal.isQuoted (trim s) = true ↔
        opening (trim s) = some '"' ∨ opening (trim s) = some '\'' := by
      rw [Literal.isQuoted_iff, head?_trim, opening_trim]
    rw [← laterReason_trim, Verdict.judge_eq, hempty, formRefusal?_eq, laterReason]
    simp only [hquoted, hasLeadingParen_iff, Bool.false_eq_true, if_false]
    split_ifs <;> rfl

/-- The reason of the verdict on a text: the hint has a part in the first two checks only. -/
theorem reason_classify (s : List Char) :
    (classify (.text s)).reason =
      if isBlankText (splitSuffix s).1 then .empty
      else if Literal.isNumeric (trim (splitSuffix s).1) then .numericLiteral
      else laterReason s := by
  rw [← laterReason_splitSuffix]
  exact reason_judge_trim (splitSuffix s).1

/-- An expression is editable when what is left of it without the display hint names a location. -/
theorem editable_iff_namesLocation :
    (classify (.text s)).editable = true ↔ NamesLocation (splitSuffix s).1 := by
  rw [Verdict.editable_iff, reason_classify]
  constructor
  · intro h
    split_ifs at h with hblank hnumeric
    rw [laterReason_eq_lvalue_iff, ← admissible_splitSuffix_iff] at h
    exact ⟨h, Bool.eq_false_iff.mpr hblank, Bool.eq_false_iff.mpr hnumeric⟩
  · rintro ⟨hadmissible, hblank, hnumeric⟩
    rw [if_neg (Bool.eq_false_iff.mp hblank), if_neg (Bool.eq_false_iff.mp hnumeric)]
    exact laterReason_eq_lvalue_iff.mpr hadmissible.of_splitSuffix

/-- A text with a character that neither a number nor a display hint can hold is editable as soon as
it is admissible. -/
theorem editable_iff_admissible {x : Char} (hx : x ∈ s) (hword : isWord x = false)
    (hblank : isBlank x = false) (hplain : x ∉ ['-', '.', ',']) :
    (classify (.text s)).editable = true ↔ Admissible s := by
  simp only [List.mem_cons, List.not_mem_nil, or_false, not_or] at hplain
  obtain ⟨hdash, hpoint, hcomma⟩ := hplain
  -- The hint comes after the character, which is therefore kept.
  have hkept : x ∈ (splitSuffix s).1 := by
    obtain ⟨p, q, rfl⟩ := List.append_of_mem hx
    rw [splitSuffix_append_cons (ofChar?_eq_none_of_isWord hword) hcomma]
    simp
  rw [editable_iff_namesLocation]
  refine ⟨fun h => h.toAdmissible.of_splitSuffix,
    fun h => ⟨admissible_splitSuffix_iff.mpr h, ?_, ?_⟩⟩
  · exact isBlankText_eq_false_of_mem hblank hkept
  · exact isNumeric_trim_of_mem hkept hword hblank hdash hpoint

/-- No display hint makes up for what a check refuses. -/
theorem not_editable_of_not_admissible (h : ¬ Admissible s) :
    (classify (.text s)).editable = false := by
  rw [Bool.eq_false_iff, ne_eq, editable_iff_namesLocation]
  exact fun hlocation => h hlocation.toAdmissible.of_splitSuffix

/-- An admissible text that is not editable is blank or a number. -/
theorem reason_of_admissible (h : Admissible (splitSuffix s).1) :
    (classify (.text s)).reason ∈ [.lvalue, .empty, .numericLiteral] := by
  rw [reason_classify, laterReason_eq_lvalue_iff.mpr h.of_splitSuffix]
  split_ifs <;> decide

end WatchExpr
