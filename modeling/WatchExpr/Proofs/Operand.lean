import WatchExpr.Operand
import WatchExpr.Proofs.Operator

/-!
# Joined operands across a seam

Where the sign of two operands is looked for, a character that is neither part of an operand nor a
blank nor the sign divides the text (`joinsFrom_append_cons`), and so does the sign when no operand
begins after it (`joinsFrom_append_sign`).  Blanks before the text have no part in the result
(`joinsFrom_blanks_append`), and neither has what comes after it without the sign and without an
operand to begin with (`joinsFrom_append_of_notMem`).  A text without the sign joins nothing
(`joinsFrom_eq_false`).  Two operands with the sign and blanks between them are joined whatever
stands around them (`joins_of_operands`).
-/

namespace WatchExpr

variable {c d : Char} {s t u v : List Char}

theorem isOperandEnd_of_isBlank (h : isBlank c = true) : isOperandEnd c = false := by
  rw [isOperandEnd, isWord_of_isBlank h, Bool.false_or]
  apply beq_false_of_ne
  rintro rfl
  exact absurd h (by decide)

theorem isWord_of_isOperandEnd_eq_false (h : isOperandEnd c = false) : isWord c = false :=
  (Bool.or_eq_false_iff.mp h).1

namespace Joint

variable {sign : Char}

theorem step_of_isOperandEnd (h : isOperandEnd c = true) (j : Joint) :
    step sign j c = .operand := by
  simp [step, h]

theorem step_of_isBlank (h : isBlank c = true) (j : Joint) : step sign j c = j := by
  simp [step, h, isOperandEnd_of_isBlank h]

theorem step_operand_sign (hend : isOperandEnd sign = false) (hblank : isBlank sign = false) :
    step sign .operand sign = .sign := by
  simp [step, hend, hblank]

/-- The sign is read only at the sign. -/
theorem step_ne_sign (hc : c ≠ sign) {j : Joint} (hj : j ≠ .sign) : step sign j c ≠ .sign := by
  unfold step
  split
  · simp
  · split
    · exact hj
    · simp [hc]

theorem foldl_step_ne_sign (hs : sign ∉ s) {j : Joint} (hj : j ≠ .sign) :
    s.foldl (step sign) j ≠ .sign := by
  induction s generalizing j with
  | nil => exact hj
  | cons c s ih =>
    rw [List.mem_cons, not_or] at hs
    exact ih hs.2 (step_ne_sign (Ne.symm hs.1) hj)

theorem joinsFrom_eq_false (hs : sign ∉ s) {j : Joint} (hj : j ≠ .sign) :
    joinsFrom sign j s = false := by
  induction s generalizing j with
  | nil => rfl
  | cons c s ih =>
    rw [List.mem_cons, not_or] at hs
    rw [joinsFrom_cons, ih hs.2 (step_ne_sign (Ne.symm hs.1) hj)]
    simp [hj]

theorem joinsFrom_blanks_append (hu : isBlankText u = true) (j : Joint) (s : List Char) :
    joinsFrom sign j (u ++ s) = joinsFrom sign j s := by
  induction u with
  | nil => rfl
  | cons c u ih =>
    rw [isBlankText, List.all_cons, Bool.and_eq_true] at hu
    rw [List.cons_append, joinsFrom_cons, step_of_isBlank hu.1, ih hu.2, isWord_of_isBlank hu.1,
      Bool.and_false, Bool.false_or]

/-- Where no operand begins, what has been read before counts only if it is an operand. -/
theorem joinsFrom_of_opening (ht : ∀ d, opening t = some d → isOperandEnd d = false) {j : Joint}
    (hj : j ≠ .operand) : joinsFrom sign j t = joinsFrom sign .nothing t := by
  induction t with
  | nil => rfl
  | cons c t ih =>
    by_cases hblank : isBlank c = true
    · have hopening : opening (c :: t) = opening t :=
        opening_blanks_append (u := [c]) (by simp [isBlankText, hblank])
      rw [hopening] at ht
      rw [joinsFrom_cons, joinsFrom_cons, step_of_isBlank hblank, step_of_isBlank hblank, ih ht,
        isWord_of_isBlank hblank, Bool.and_false, Bool.and_false]
    · have hend : isOperandEnd c = false :=
        ht c (opening_cons (Bool.eq_false_iff.mpr hblank) t)
      have hstep : ∀ k : Joint, k ≠ .operand → step sign k c = .nothing := by
        intro k hk
        simp [step, hend, hblank, hk]
      rw [joinsFrom_cons, joinsFrom_cons, hstep j hj, hstep .nothing (by decide),
        isWord_of_isOperandEnd_eq_false hend, Bool.and_false, Bool.and_false]

/-- A text without the sign that does not begin as an operand completes no joint. -/
theorem joinsFrom_append_of_notMem (hsign : sign ∉ t)
    (ht : ∀ d, opening t = some d → isOperandEnd d = false) (j : Joint) (s : List Char) :
    joinsFrom sign j (s ++ t) = joinsFrom sign j s := by
  have hrest : joinsFrom sign (s.foldl (step sign) j) t = false := by
    by_cases hj : s.foldl (step sign) j = .operand
    · rw [hj]
      exact joinsFrom_eq_false hsign (by decide)
    · rw [joinsFrom_of_opening ht hj]
      exact joinsFrom_eq_false hsign (by decide)
  rw [joinsFrom_append, hrest, Bool.or_false]

/-- The sign itself divides the joints, where no operand begins after it. -/
theorem joinsFrom_append_sign (hend : isOperandEnd sign = false) (hblank : isBlank sign = false)
    (ht : ∀ d, opening t = some d → isOperandEnd d = false) (j : Joint) (s : List Char) :
    joinsFrom sign j (s ++ sign :: t) = (joinsFrom sign j s || joinsFrom sign .nothing t) := by
  have hstep : step sign (s.foldl (step sign) j) sign ≠ .operand := by
    unfold step
    rw [if_neg (by simp [hend]), if_neg (by simp [hblank])]
    split <;> decide
  rw [joinsFrom_append, joinsFrom_cons, isWord_of_isOperandEnd_eq_false hend, Bool.and_false,
    Bool.false_or, joinsFrom_of_opening ht hstep]

/-- A character that no joint can hold divides the joints into those before it and those after
it. -/
theorem joinsFrom_append_cons (hend : isOperandEnd c = false) (hblank : isBlank c = false)
    (hsign : c ≠ sign) (j : Joint) (s t : List Char) :
    joinsFrom sign j (s ++ c :: t) = (joinsFrom sign j s || joinsFrom sign .nothing t) := by
  have hstep : step sign (s.foldl (step sign) j) c = .nothing := by
    simp [step, hend, hblank, hsign]
  rw [joinsFrom_append, joinsFrom_cons, hstep, isWord_of_isOperandEnd_eq_false hend]
  simp

/-- An operand, the sign and an operand are joined whatever has been read before them. -/
theorem joinsFrom_operands (hc : isOperandEnd c = true) (hd : isWord d = true)
    (hu : isBlankText u = true) (hv : isBlankText v = true) (hend : isOperandEnd sign = false)
    (hblank : isBlank sign = false) (j : Joint) :
    joinsFrom sign j (c :: (u ++ sign :: (v ++ d :: t))) = true := by
  rw [joinsFrom_cons, step_of_isOperandEnd hc, joinsFrom_blanks_append hu, joinsFrom_cons,
    step_operand_sign hend hblank, joinsFrom_blanks_append hv, joinsFrom_cons]
  simp [hd]

end Joint

/-- Two operands with the sign between them, blanks aside, are joined wherever they stand. -/
theorem joins_of_operands {sign : Char} (hc : isOperandEnd c = true) (hd : isWord d = true)
    (hu : isBlankText u = true) (hv : isBlankText v = true) (hend : isOperandEnd sign = false)
    (hblank : isBlank sign = false) (s : List Char) :
    joins sign (s ++ c :: (u ++ sign :: (v ++ d :: t))) = true := by
  rw [joins, Joint.joinsFrom_append, Joint.joinsFrom_operands hc hd hu hv hend hblank,
    Bool.or_true]

/-- Having read something before a text makes no joint in it come undone. -/
theorem Joint.joinsFrom_of_nothing {sign : Char} (h : joinsFrom sign .nothing t = true)
    (j : Joint) : joinsFrom sign j t = true := by
  induction t generalizing j with
  | nil => cases h
  | cons c t ih =>
    rw [joinsFrom_cons, Bool.or_eq_true] at h ⊢
    rcases h with h | h
    · cases h
    right
    by_cases hend : isOperandEnd c = true
    · rw [step_of_isOperandEnd hend] at h ⊢
      exact h
    · have hstep : step sign .nothing c = .nothing := by simp [step, hend]
      rw [hstep] at h
      exact ih h (j.step sign c)

/-- Two operands that are joined are so whatever stands before them. -/
theorem joins_append_left {sign : Char} (h : joins sign t = true) (s : List Char) :
    joins sign (s ++ t) = true := by
  rw [joins, Joint.joinsFrom_append, Joint.joinsFrom_of_nothing h, Bool.or_true]

theorem joins_append_of_joins {sign : Char} (h : joins sign s = true) (t : List Char) :
    joins sign (s ++ t) = true := by
  rw [joins] at h
  rw [joins, Joint.joinsFrom_append, h, Bool.true_or]

end WatchExpr
