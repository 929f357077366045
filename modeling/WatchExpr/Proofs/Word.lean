import WatchExpr.Text.Word

/-!
# Word characters by code point

The classes of `Text.Word` as ranges of code points (`isNameStart_iff_toNat`, `isWord_iff_toNat`,
`isHexDigit_iff_toNat`).  How the classes lie to each other follows by arithmetic: no digit can
begin a name, and every hexadecimal digit is a word character.
-/

namespace WatchExpr

variable {c : Char}

/-- The digits, with their code points as numbers. -/
theorem isDigit_iff_toNat : c.isDigit = true ↔ 48 ≤ c.toNat ∧ c.toNat ≤ 57 :=
  Char.isDigit_iff_toNat

theorem isNameStart_iff_toNat :
    isNameStart c = true ↔
      (65 ≤ c.toNat ∧ c.toNat ≤ 90) ∨ (97 ≤ c.toNat ∧ c.toNat ≤ 122) ∨ c.toNat = 95 := by
  have hupper : c.isUpper = true ↔ 65 ≤ c.toNat ∧ c.toNat ≤ 90 := decide_eq_true_iff
  have hlower : c.isLower = true ↔ 97 ≤ c.toNat ∧ c.toNat ≤ 122 := by
    show (decide (97 ≤ c.toNat) && decide (c.toNat ≤ 122)) = true ↔ _
    rw [Bool.and_eq_true, decide_eq_true_iff, decide_eq_true_iff]
  have halpha : c.isAlpha = true ↔ c.isUpper = true ∨ c.isLower = true := Bool.or_eq_true_iff
  have hunderscore : c = '_' ↔ c.toNat = 95 := Char.toNat_inj.symm
  rw [isNameStart, Bool.or_eq_true, beq_iff_eq, halpha, hupper, hlower, hunderscore, or_assoc]

theorem isWord_iff_toNat :
    isWord c = true ↔ (48 ≤ c.toNat ∧ c.toNat ≤ 57) ∨ (65 ≤ c.toNat ∧ c.toNat ≤ 90) ∨
      (97 ≤ c.toNat ∧ c.toNat ≤ 122) ∨ c.toNat = 95 := by
  rw [isWord, Bool.or_eq_true, isDigit_iff_toNat, isNameStart_iff_toNat]

theorem isHexDigit_iff_toNat :
    isHexDigit c = true ↔ (48 ≤ c.toNat ∧ c.toNat ≤ 57) ∨ (97 ≤ c.toNat ∧ c.toNat ≤ 102) ∨
      (65 ≤ c.toNat ∧ c.toNat ≤ 70) := by
  have hle : ∀ a b : Char, a ≤ b ↔ a.toNat ≤ b.toNat := fun a b => Iff.rfl
  simp only [isHexDigit, Bool.or_eq_true, Bool.and_eq_true, decide_eq_true_iff, isDigit_iff_toNat,
    hle, or_assoc]
  exact Iff.rfl

theorem isNameStart_of_isDigit (h : c.isDigit = true) : isNameStart c = false := by
  rw [isDigit_iff_toNat] at h
  rw [Bool.eq_false_iff, ne_eq, isNameStart_iff_toNat]
  omega

theorem isDigit_of_isNameStart (h : isNameStart c = true) : c.isDigit = false := by
  rw [Bool.eq_false_iff]
  intro hdigit
  rw [isNameStart_of_isDigit hdigit] at h
  cases h

theorem isWord_of_isHexDigit (h : isHexDigit c = true) : isWord c = true := by
  rw [isHexDigit_iff_toNat] at h
  rw [isWord_iff_toNat]
  omega

end WatchExpr
