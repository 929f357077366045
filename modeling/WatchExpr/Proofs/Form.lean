import WatchExpr.Proofs.Literal
import WatchExpr.Proofs.Run

/-!
# The form of a text by patterns

The checks on the form of a text are scans.  This file says what they look for as patterns, without
a scan.  `NumberPattern` is what the whole of a numeric literal looks like, and `CalledAt` says at
which places of a text a name, the blanks after it and the parenthesis of a call stand; the name may
begin anywhere, also inside a run of word characters.

The scans find the patterns and nothing else: `Literal.isNumeric_iff` for numbers, and for calls
`callsRun_iff`, where the scan begins at runs only, never reads a character twice and passes over
runs of digits.  So the reason of a refusal is told from the patterns alone
(`formRefusal?_eq_patterns`).
-/

namespace WatchExpr

variable {s : List Char} {i j k : Nat}

/-! ### Numbers -/

/-- The text is one or more characters of the class. -/
def OneOrMore (p : Char → Bool) (s : List Char) : Prop := s ≠ [] ∧ ∀ c ∈ s, p c = true

/-- A minus sign or none, digits, and then a point and digits or nothing. -/
def DecimalPattern (s : List Char) : Prop :=
  ∃ sign whole fraction, (sign = [] ∨ sign = ['-']) ∧ OneOrMore Char.isDigit whole ∧
    (fraction = [] ∨ ∃ digits, OneOrMore Char.isDigit digits ∧ fraction = '.' :: digits) ∧
    s = sign ++ (whole ++ fraction)

/-- `0x` or `0X`, and hexadecimal digits in either case. -/
def HexadecimalPattern (s : List Char) : Prop :=
  ∃ mark digits, (mark = 'x' ∨ mark = 'X') ∧ OneOrMore isHexDigit digits ∧ s = '0' :: mark :: digits

/-- The whole text is a number. -/
def NumberPattern (s : List Char) : Prop := DecimalPattern s ∨ HexadecimalPattern s

namespace Literal

/-- Digits, and a point and digits or nothing. -/
theorem isUnsignedDecimal_iff_pattern :
    isUnsignedDecimal s = true ↔
      ∃ whole fraction, OneOrMore Char.isDigit whole ∧
        (fraction = [] ∨ ∃ digits, OneOrMore Char.isDigit digits ∧ fraction = '.' :: digits) ∧
        s = whole ++ fraction := by
  rw [isUnsignedDecimal_iff]
  constructor
  · rintro (h | ⟨whole, fraction, hwhole, hfraction, rfl⟩)
    · exact ⟨s, [], isDigits_iff.mp h, .inl rfl, (List.append_nil s).symm⟩
    · exact ⟨whole, '.' :: fraction, isDigits_iff.mp hwhole,
        .inr ⟨fraction, isDigits_iff.mp hfraction, rfl⟩, rfl⟩
  · rintro ⟨whole, _, hwhole, rfl | ⟨digits, hdigits, rfl⟩, rfl⟩
    · rw [List.append_nil]
      exact .inl (isDigits_iff.mpr hwhole)
    · exact .inr ⟨whole, digits, isDigits_iff.mpr hwhole, isDigits_iff.mpr hdigits, rfl⟩

/-- A number without a sign does not begin with one. -/
theorem unsigned_of_isUnsignedDecimal (h : isUnsignedDecimal s = true) : unsigned s = s := by
  cases s with
  | nil => rfl
  | cons c s =>
    apply unsigned_cons_of_ne
    rintro rfl
    have hdash := isDigit_or_of_isUnsignedDecimal h (List.mem_cons_self ..)
    exact absurd hdash (by decide)

theorem isDecimal_iff : isDecimal s = true ↔ DecimalPattern s := by
  rw [isDecimal]
  constructor
  · intro h
    obtain ⟨whole, fraction, hwhole, hfraction, hs⟩ := isUnsignedDecimal_iff_pattern.mp h
    rcases eq_unsigned_or s with hsign | hsign
    · exact ⟨[], whole, fraction, .inl rfl, hwhole, hfraction, hsign.trans hs⟩
    · exact ⟨['-'], whole, fraction, .inr rfl, hwhole, hfraction,
        hsign.trans (congrArg (List.cons '-') hs)⟩
  · rintro ⟨_, whole, fraction, rfl | rfl, hwhole, hfraction, rfl⟩
    · have h := isUnsignedDecimal_iff_pattern.mpr ⟨whole, fraction, hwhole, hfraction, rfl⟩
      rw [List.nil_append, unsigned_of_isUnsignedDecimal h]
      exact h
    · exact isUnsignedDecimal_iff_pattern.mpr ⟨whole, fraction, hwhole, hfraction, rfl⟩

theorem isHexadecimal_iff_pattern : isHexadecimal s = true ↔ HexadecimalPattern s := by
  simp only [isHexadecimal_iff, isHexDigits_iff]
  exact Iff.rfl

theorem isNumeric_iff : isNumeric s = true ↔ NumberPattern s := by
  rw [isNumeric, Bool.or_eq_true, isDecimal_iff, isHexadecimal_iff_pattern, NumberPattern]

end Literal

instance (s : List Char) : Decidable (NumberPattern s) :=
  decidable_of_iff _ Literal.isNumeric_iff

/-! ### Calls -/

/-- A name begins at the place `i` of the text and ends before `j`, blanks follow up to `k`, and at
`k` stands an opening parenthesis. -/
structure CalledAt (s : List Char) (i j k : Nat) : Prop where
  start : (s[i]?).any isNameStart = true
  name : (s.extract (i + 1) j).all isWord = true
  blanks : isBlankText (s.extract j k) = true
  paren : s[k]? = some '('

instance (s : List Char) (i j k : Nat) : Decidable (CalledAt s i j k) :=
  decidable_of_iff
    ((s[i]?).any isNameStart = true ∧ (s.extract (i + 1) j).all isWord = true ∧
      isBlankText (s.extract j k) = true ∧ s[k]? = some '(')
    ⟨fun ⟨start, name, blanks, paren⟩ => ⟨start, name, blanks, paren⟩,
      fun h => ⟨h.start, h.name, h.blanks, h.paren⟩⟩

/-- There are places of a call in the text. -/
def HoldsCallAt (s : List Char) : Prop :=
  ∃ k < s.length, ∃ j ≤ k, ∃ i < j, CalledAt s i j k

instance (s : List Char) : Decidable (HoldsCallAt s) :=
  inferInstanceAs (Decidable (∃ k < s.length, _))

/-- What stands in the middle of a text, by its places. -/
theorem extract_append (s t u : List Char) :
    (s ++ (t ++ u)).extract s.length (s.length + t.length) = t := by
  rw [List.extract_eq_take_drop, List.drop_left, Nat.add_sub_cancel_left, List.take_left]

/-- The rest of a text begins with what stands before a later place. -/
theorem drop_eq_extract_append (h : i ≤ j) (s : List Char) :
    s.drop i = s.extract i j ++ s.drop j := by
  have hdrop : (s.drop i).drop (j - i) = s.drop j := by
    rw [List.drop_drop, Nat.add_sub_cancel' h]
  rw [List.extract_eq_take_drop, ← hdrop, List.take_append_drop]

/-- A name, blanks and a parenthesis stand at the places that the parts before them make. -/
theorem calledAt_append {c : Char} {before word blanks : List Char} (hc : isNameStart c = true)
    (hword : word.all isWord = true) (hblanks : isBlankText blanks = true) (after : List Char) :
    CalledAt (before ++ (c :: word ++ (blanks ++ '(' :: after))) before.length
      (before ++ c :: word).length ((before ++ c :: word).length + blanks.length) := by
  have hcut : before ++ (c :: word ++ (blanks ++ '(' :: after))
      = (before ++ c :: word) ++ (blanks ++ '(' :: after) := by simp
  constructor
  · simpa using hc
  · have hname := extract_append (before ++ [c]) word (blanks ++ '(' :: after)
    have hlength : (before ++ [c]).length + word.length = (before ++ c :: word).length := by
      rw [← List.length_append, ← List.append_cons]
    rw [hlength, ← List.append_cons, List.length_append, List.length_singleton] at hname
    rw [List.cons_append, hname]
    exact hword
  · rw [hcut, extract_append]
    exact hblanks
  · rw [hcut, List.getElem?_append_right (Nat.le_add_right ..), Nat.add_sub_cancel_left,
      List.getElem?_append_right (Nat.le_refl _), Nat.sub_self]
    rfl

/-- The parts of a call are told from the places at which they stand. -/
theorem holdsCall_iff_places : HoldsCall s ↔ HoldsCallAt s := by
  constructor
  · rintro ⟨before, name, blanks, after, hname, hblanks, rfl⟩
    cases name with
    | nil => cases hname
    | cons c word =>
      rw [isName, Bool.and_eq_true] at hname
      refine ⟨_, ?_, _, Nat.le_add_right _ blanks.length, _, ?_,
        calledAt_append hname.1 hname.2 hblanks after⟩
      · simp only [List.length_append, List.length_cons]
        omega
      · simp
  · rintro ⟨k, hk, j, hj, i, hi, h⟩
    have hik : i < s.length := Nat.lt_trans hi (Nat.lt_of_le_of_lt hj hk)
    obtain ⟨_, hparen⟩ := List.getElem?_eq_some_iff.mp h.paren
    refine ⟨s.take i, s[i] :: s.extract (i + 1) j, s.extract j k, s.drop (k + 1), ?_, h.blanks, ?_⟩
    · have hstart := h.start
      rw [List.getElem?_eq_getElem hik, Option.any_some] at hstart
      rw [isName, hstart, h.name]
      rfl
    · calc s = s.take i ++ s[i] :: s.drop (i + 1) := by
              rw [← List.drop_eq_getElem_cons hik, List.take_append_drop]
        _ = s.take i ++ s[i] :: (s.extract (i + 1) j ++ (s.extract j k ++ s.drop k)) := by
              rw [drop_eq_extract_append hi, drop_eq_extract_append hj]
        _ = _ := by rw [List.drop_eq_getElem_cons hk, hparen]; rfl

/-- The scan by runs finds a call where there are places for one: what it skips holds none. -/
theorem callsRun_iff : callsRun s = true ↔ HoldsCallAt s := by
  rw [callsRun_eq_hasCall, hasCall_iff, holdsCall_iff_places]

/-! ### The reason -/

/-- The reason for which the form of a text is refused, by patterns; for a call these are places
that the scan by runs finds. -/
theorem formRefusal?_eq_patterns (s : List Char) :
    (formRefusal? s =
      if NumberPattern s then some .numericLiteral
      else if s.head? = some '"' ∨ s.head? = some '\'' then some .quotedLiteral
      else if HoldsCallAt s then some .call
      else if opening s = some '(' then some .parenthesized
      else none) ∧
    (callsRun s = true ↔ HoldsCallAt s) := by
  refine ⟨?_, callsRun_iff⟩
  unfold formRefusal?
  simp only [Literal.isNumeric_iff, Literal.isQuoted_iff, callsRun_iff, hasLeadingParen_iff]

/-- The digits before the first parenthesis are passed over with it, and the name that is called
begins inside a run. -/
example : CalledAt ['1', '2', '(', '3', 'r', 'd', ' ', '('] 4 6 7 ∧
    formRefusal? ['1', '2', '(', '3', 'r', 'd', ' ', '('] = some .call := by decide

end WatchExpr
