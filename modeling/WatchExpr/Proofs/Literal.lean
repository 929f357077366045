import WatchExpr.Literal
import WatchExpr.Proofs.Call

/-!
# The characters of literals

A decimal is digits, or digits, a point and digits, with a minus sign before it or none
(`isUnsignedDecimal_iff`).  From the form of the literals it follows what cannot stand in one: a
character that is neither a word character nor `-` nor `.` (`isWord_or_of_isNumeric`), a letter
beside a sign or a point (`isNameStart_of_not_isWord_mem`), and a letter at the start
(`isNameStart_of_isNumeric_cons`).
-/

namespace WatchExpr.Literal

variable {c : Char} {s : List Char}

/-- The two forms of a decimal without a sign. -/
theorem isUnsignedDecimal_iff :
    isUnsignedDecimal s = true ↔ isDigits s = true ∨
      ∃ whole fraction, isDigits whole = true ∧ isDigits fraction = true ∧
        s = whole ++ '.' :: fraction := by
  constructor
  · intro h
    unfold isUnsignedDecimal at h
    split at h
    · exact .inl h
    · next fraction hrest =>
      rw [Bool.and_eq_true] at h
      refine .inr ⟨s.takeWhile Char.isDigit, fraction, h.1, h.2, ?_⟩
      rw [← hrest, List.takeWhile_append_dropWhile]
    · cases h
  · rintro (h | ⟨whole, fraction, hwhole, hfraction, rfl⟩)
    · have hrest : s.dropWhile Char.isDigit = [] := by
        rw [← List.append_nil s, List.dropWhile_append_of_pos (isDigits_iff.mp h).2]
        rfl
      rw [isUnsignedDecimal, hrest]
      exact h
    · have hdigits := (isDigits_iff.mp hwhole).2
      have hpoint : Char.isDigit '.' = false := by decide
      have hrest : (whole ++ '.' :: fraction).dropWhile Char.isDigit = '.' :: fraction := by
        rw [List.dropWhile_append_of_pos hdigits, List.dropWhile_cons_of_neg (by simp [hpoint])]
      have hstart : (whole ++ '.' :: fraction).takeWhile Char.isDigit = whole := by
        rw [List.takeWhile_append_of_pos hdigits, List.takeWhile_cons_of_neg (by simp [hpoint]),
          List.append_nil]
      rw [isUnsignedDecimal, hrest, hstart]
      show (isDigits whole && isDigits fraction) = true
      rw [hwhole, hfraction]
      rfl

theorem isDigit_or_of_isUnsignedDecimal (h : isUnsignedDecimal s = true) (hc : c ∈ s) :
    c.isDigit = true ∨ c = '.' := by
  rcases isUnsignedDecimal_iff.mp h with h | ⟨whole, fraction, hwhole, hfraction, rfl⟩
  · exact .inl ((isDigits_iff.mp h).2 c hc)
  · rcases List.mem_append.mp hc with hc | hc
    · exact .inl ((isDigits_iff.mp hwhole).2 c hc)
    · rcases List.mem_cons.mp hc with rfl | hc
      · exact .inr rfl
      · exact .inl ((isDigits_iff.mp hfraction).2 c hc)

theorem unsigned_cons_of_ne (hc : c ≠ '-') : unsigned (c :: s) = c :: s := by
  unfold unsigned
  split
  · next heq => exact absurd (List.cons.inj heq).1 hc
  · rfl

/-- The sign at the start, if there is one, is all that `unsigned` takes off. -/
theorem eq_unsigned_or (s : List Char) : s = unsigned s ∨ s = '-' :: unsigned s := by
  unfold unsigned
  split
  · exact .inr rfl
  · exact .inl rfl

/-- A decimal is made of digits, points and minus signs. -/
theorem isDigit_or_of_isDecimal (h : isDecimal s = true) (hc : c ∈ s) :
    c.isDigit = true ∨ c = '-' ∨ c = '.' := by
  have hunsigned : c ∈ unsigned s → c.isDigit = true ∨ c = '-' ∨ c = '.' := fun hc =>
    (isDigit_or_of_isUnsignedDecimal h hc).imp_right .inr
  rcases eq_unsigned_or s with hs | hs
  · exact hunsigned (hs ▸ hc)
  · rw [hs] at hc
    rcases List.mem_cons.mp hc with rfl | hc
    · exact .inr (.inl rfl)
    · exact hunsigned hc

theorem isHexadecimal_iff :
    isHexadecimal s = true ↔ ∃ mark digits, (mark = 'x' ∨ mark = 'X') ∧ isHexDigits digits = true ∧
      s = '0' :: mark :: digits := by
  constructor
  · intro h
    unfold isHexadecimal at h
    split at h
    · next digits => exact ⟨'x', digits, .inl rfl, h, rfl⟩
    · next digits => exact ⟨'X', digits, .inr rfl, h, rfl⟩
    · cases h
  · rintro ⟨mark, digits, rfl | rfl, hdigits, rfl⟩ <;> exact hdigits

/-- A hexadecimal begins with `0` and is made of word characters. -/
theorem isHexadecimal_chars (h : isHexadecimal s = true) :
    s.head? = some '0' ∧ ∀ c ∈ s, isWord c = true := by
  obtain ⟨mark, digits, hmark, hdigits, rfl⟩ := isHexadecimal_iff.mp h
  refine ⟨rfl, fun c hc => ?_⟩
  rw [List.mem_cons, List.mem_cons] at hc
  rcases hc with rfl | rfl | hc
  · decide
  · rcases hmark with rfl | rfl <;> decide
  · exact isWord_of_isHexDigit ((isHexDigits_iff.mp hdigits).2 c hc)

theorem isNameStart_of_isDecimal (h : isDecimal s = true) (hc : c ∈ s) : isNameStart c = false := by
  rcases isDigit_or_of_isDecimal h hc with hdigit | rfl | rfl
  · exact isNameStart_of_isDigit hdigit
  · decide
  · decide

/-! ### What a numeric literal cannot hold -/

theorem isWord_or_of_isNumeric (h : isNumeric s = true) (hc : c ∈ s) :
    isWord c = true ∨ c = '-' ∨ c = '.' := by
  rcases Bool.or_eq_true_iff.mp h with h | h
  · exact (isDigit_or_of_isDecimal h hc).imp_left isWord_of_isDigit
  · exact .inl ((isHexadecimal_chars h).2 c hc)

/-- A numeric literal is word characters and points, with a minus sign before them or none. -/
theorem exists_unsigned_of_isNumeric (h : isNumeric s = true) :
    ∃ t, (s = t ∨ s = '-' :: t) ∧ ∀ c ∈ t, isWord c = true ∨ c = '.' := by
  rcases Bool.or_eq_true_iff.mp h with h | h
  · refine ⟨unsigned s, eq_unsigned_or s, fun c hc => ?_⟩
    exact (isDigit_or_of_isUnsignedDecimal h hc).imp_left isWord_of_isDigit
  · exact ⟨s, .inl rfl, fun c hc => .inl ((isHexadecimal_chars h).2 c hc)⟩

/-- A numeric literal with a sign or a point in it has no letter. -/
theorem isNameStart_of_not_isWord_mem {d : Char} (h : isNumeric s = true) (hd : isWord d = false)
    (hmem : d ∈ s) (hc : c ∈ s) : isNameStart c = false := by
  rcases Bool.or_eq_true_iff.mp h with h | h
  · exact isNameStart_of_isDecimal h hc
  · rw [(isHexadecimal_chars h).2 d hmem] at hd
    cases hd

theorem isNameStart_of_isNumeric_cons (h : isNumeric (c :: s) = true) : isNameStart c = false := by
  rcases Bool.or_eq_true_iff.mp h with h | h
  · exact isNameStart_of_isDecimal h (List.mem_cons_self ..)
  · have hc : c = '0' := Option.some.inj (isHexadecimal_chars h).1
    rw [hc]
    decide

/-! ### Text and character literals -/

theorem isQuoted_iff : isQuoted s = true ↔ s.head? = some '"' ∨ s.head? = some '\'' := by
  unfold isQuoted
  split
  · simp
  · simp
  · next hquote hmark =>
    cases s with
    | nil => simp
    | cons c s =>
      have hne : c ≠ '"' ∧ c ≠ '\'' := by
        constructor
        · rintro rfl
          exact hquote s rfl
        · rintro rfl
          exact hmark s rfl
      simp [hne]

end WatchExpr.Literal
