import WatchExpr.Text.Blank
import WatchExpr.Proofs.Word

/-!
# The ends of a text

`opening s` and `closing s` are the first and the last character of `s` that is not a blank.  A text
is its trimmed form between two texts of blanks (`exists_blanks_trim`), and blanks added at either
end do not change the trimmed form (`trim_blanks_append`, `trim_append_blanks`).  Trimming a text
that has a character other than a blank inside trims its two halves apart (`trim_append_cons`).
-/

namespace WatchExpr

variable {s t u v : List Char} {c : Char}

/-! ### Texts of blanks -/

theorem isBlankText_iff : isBlankText s = true ↔ ∀ c ∈ s, isBlank c = true := by
  simp [isBlankText]

theorem isBlankText_append :
    isBlankText (s ++ t) = true ↔ isBlankText s = true ∧ isBlankText t = true := by
  simp [isBlankText]

theorem isBlankText_reverse : isBlankText s.reverse = isBlankText s := by
  simp [isBlankText]

/-- A text with a character other than a blank is no text of blanks. -/
theorem isBlankText_eq_false_of_mem (hc : isBlank c = false) (h : c ∈ s) :
    isBlankText s = false := by
  rw [Bool.eq_false_iff]
  intro hs
  rw [isBlankText_iff.mp hs c h] at hc
  cases hc

theorem isBlank_of_isWord (h : isWord c = true) : isBlank c = false := by
  rw [isWord_iff_toNat] at h
  rw [Bool.eq_false_iff]
  intro hblank
  simp only [isBlank, inRanges_iff, blankRanges, List.mem_cons, List.not_mem_nil, or_false,
    exists_eq_or_imp, exists_eq_left] at hblank
  omega

theorem isWord_of_isBlank (h : isBlank c = true) : isWord c = false := by
  rw [Bool.eq_false_iff]
  intro hword
  rw [isBlank_of_isWord hword] at h
  cases h

theorem notMem_of_isBlankText (hc : isBlank c = false) (hs : isBlankText s = true) : c ∉ s := by
  intro h
  rw [isBlankText_iff.mp hs c h] at hc
  cases hc

/-- A character of a class is not in a text that has no character of that class. -/
theorem notMem_of_any_eq_false {p : Char → Bool} (hs : s.any p = false) (hc : p c = true) :
    c ∉ s := by
  intro h
  rw [List.any_eq_true.mpr ⟨c, h, hc⟩] at hs
  cases hs

/-! ### The first and the last character that is not a blank -/

/-- The first character of the text that is not a blank. -/
def opening (s : List Char) : Option Char := s.find? fun c => !isBlank c

/-- The last character of the text that is not a blank. -/
def closing (s : List Char) : Option Char := opening s.reverse

theorem opening_cons (hc : isBlank c = false) (s : List Char) : opening (c :: s) = some c := by
  simp [opening, hc]

theorem opening_append (s t : List Char) : opening (s ++ t) = (opening s).or (opening t) :=
  List.find?_append

theorem opening_eq_none_iff : opening s = none ↔ isBlankText s = true := by
  simp [opening, isBlankText]

theorem opening_blanks_append (hu : isBlankText u = true) : opening (u ++ s) = opening s := by
  rw [opening_append, opening_eq_none_iff.mpr hu]
  rfl

theorem opening_append_blanks (hu : isBlankText u = true) : opening (s ++ u) = opening s := by
  rw [opening_append, opening_eq_none_iff.mpr hu, Option.or_none]

/-- What comes after a text that is not blank has no part in how the whole begins. -/
theorem opening_append_of_not_blank (hs : isBlankText s = false) :
    opening (s ++ t) = opening s := by
  rw [opening_append]
  cases h : opening s with
  | none =>
    rw [opening_eq_none_iff.mp h] at hs
    cases hs
  | some c => rfl

theorem opening_eq_some_iff :
    opening s = some c ↔ isBlank c = false ∧ ∃ u t, isBlankText u = true ∧ s = u ++ c :: t := by
  simp only [opening, List.find?_eq_some_iff_append, Bool.not_eq_true', Bool.not_not,
    isBlankText_iff]
  refine and_congr_right fun _ => ⟨?_, ?_⟩
  · rintro ⟨u, t, hs, hu⟩
    exact ⟨u, t, hu, hs⟩
  · rintro ⟨u, t, hu, hs⟩
    exact ⟨u, t, hs, hu⟩

theorem closing_eq_some_iff :
    closing s = some c ↔ isBlank c = false ∧ ∃ t u, isBlankText u = true ∧ s = t ++ c :: u := by
  rw [closing, opening_eq_some_iff]
  refine and_congr_right fun _ => ⟨?_, ?_⟩
  · rintro ⟨u, t, hu, hs⟩
    refine ⟨t.reverse, u.reverse, by rwa [isBlankText_reverse], ?_⟩
    rw [← List.reverse_reverse s, hs]
    simp
  · rintro ⟨t, u, hu, rfl⟩
    exact ⟨u.reverse, t.reverse, by rwa [isBlankText_reverse], by simp⟩

/-- The first character of a text is a blank, or no blank comes before the text. -/
theorem isBlank_or_opening (h : s.head? = some c) : isBlank c = true ∨ opening s = some c := by
  obtain ⟨t, rfl⟩ := List.head?_eq_some_iff.mp h
  by_cases hc : isBlank c = true
  · exact .inl hc
  · exact .inr (opening_cons (Bool.eq_false_iff.mpr hc) t)

theorem isBlank_or_closing (h : s.getLast? = some c) : isBlank c = true ∨ closing s = some c :=
  isBlank_or_opening (by rwa [List.head?_reverse])

/-- A text with a character other than a blank is not blank. -/
theorem isBlankText_of_closing (h : closing s = some c) : isBlankText s = false := by
  obtain ⟨hc, t, u, -, rfl⟩ := closing_eq_some_iff.mp h
  exact isBlankText_eq_false_of_mem hc (by simp)

theorem head?_trimStart (s : List Char) : (trimStart s).head? = opening s := by
  induction s with
  | nil => rfl
  | cons c s ih =>
    by_cases hc : isBlank c = true
    · simpa [trimStart, opening, hc] using ih
    · simp [trimStart, opening, hc]

/-! ### Trimming -/

theorem trimStart_blanks_append (hu : isBlankText u = true) : trimStart (u ++ s) = trimStart s :=
  List.dropWhile_append_of_pos (isBlankText_iff.mp hu)

theorem trimStart_cons (hc : isBlank c = false) : trimStart (c :: s) = c :: s := by
  simp [trimStart, hc]

theorem trimEnd_reverse (s : List Char) : trimEnd s = (trimStart s.reverse).reverse := rfl

theorem trimEnd_prefix (s : List Char) : trimEnd s <+: s := by
  rw [trimEnd, ← List.reverse_suffix, List.reverse_reverse]
  exact List.dropWhile_suffix isBlank

theorem trimEnd_append_blanks (hu : isBlankText u = true) : trimEnd (s ++ u) = trimEnd s := by
  rw [trimEnd_reverse, List.reverse_append,
    trimStart_blanks_append (by rwa [isBlankText_reverse]), ← trimEnd_reverse]

/-- A character other than a blank keeps all that comes after it from being trimmed at the start. -/
theorem trimStart_append_cons (hc : isBlank c = false) (s t : List Char) :
    trimStart (s ++ c :: t) = trimStart s ++ c :: t := by
  induction s with
  | nil => exact trimStart_cons hc
  | cons d s ih =>
    by_cases hd : isBlank d = true
    · simpa [trimStart, hd] using ih
    · simp [trimStart, hd]

theorem trimEnd_append_cons (hc : isBlank c = false) (s t : List Char) :
    trimEnd (s ++ c :: t) = s ++ c :: trimEnd t := by
  rw [trimEnd_reverse, List.reverse_append, List.reverse_cons, List.append_assoc,
    List.singleton_append, trimStart_append_cons hc, trimEnd_reverse t]
  simp

/-- Around a character other than a blank, each half is trimmed at its own end. -/
theorem trim_append_cons (hc : isBlank c = false) (s t : List Char) :
    trim (s ++ c :: t) = trimStart s ++ c :: trimEnd t := by
  rw [trim, trimStart_append_cons hc, trimEnd_append_cons hc]

/-- A text is its trimmed form between two texts of blanks. -/
theorem exists_blanks_trim (s : List Char) :
    ∃ u v, isBlankText u = true ∧ isBlankText v = true ∧ s = u ++ (trim s ++ v) := by
  have hstart : ∀ t : List Char, ∃ u, isBlankText u = true ∧ t = u ++ trimStart t := fun t =>
    ⟨t.takeWhile isBlank, List.all_takeWhile, List.takeWhile_append_dropWhile.symm⟩
  obtain ⟨u, hu, hs⟩ := hstart s
  -- What is trimmed at the end is trimmed at the start of the reversed text.
  obtain ⟨v, hv, ht⟩ := hstart (trimStart s).reverse
  refine ⟨u, v.reverse, hu, by rwa [isBlankText_reverse], ?_⟩
  have hend : trimStart s = trim s ++ v.reverse := by
    rw [trim, trimEnd_reverse, ← List.reverse_append, ← ht, List.reverse_reverse]
  rw [← hend]
  exact hs

theorem trim_blanks_append (hu : isBlankText u = true) : trim (u ++ s) = trim s := by
  rw [trim, trimStart_blanks_append hu, trim]

theorem trim_append_blanks (hu : isBlankText u = true) : trim (s ++ u) = trim s := by
  cases h : opening s with
  | none =>
    have hs := opening_eq_none_iff.mp h
    rw [trim_eq_nil_of_isBlankText hs, trim_eq_nil_of_isBlankText (isBlankText_append.mpr ⟨hs, hu⟩)]
  | some c =>
    -- The first character that is not a blank is kept, and all before it is trimmed as before.
    obtain ⟨hc, w, t, -, rfl⟩ := opening_eq_some_iff.mp h
    rw [List.append_assoc, List.cons_append, trim_append_cons hc, trim_append_cons hc,
      trimEnd_append_blanks hu]

theorem trim_eq_nil_iff : trim s = [] ↔ isBlankText s = true := by
  refine ⟨fun h => ?_, trim_eq_nil_of_isBlankText⟩
  obtain ⟨u, v, hu, hv, hs⟩ := exists_blanks_trim s
  rw [hs, h]
  exact isBlankText_append.mpr ⟨hu, hv⟩

/-- A trimmed text begins with the first character that is not a blank. -/
theorem head?_trim (s : List Char) : (trim s).head? = opening s := by
  cases h : opening s with
  | none => rw [trim_eq_nil_of_isBlankText (opening_eq_none_iff.mp h), List.head?_nil]
  | some c =>
    obtain ⟨hc, u, t, hu, rfl⟩ := opening_eq_some_iff.mp h
    rw [trim_append_cons hc, trimStart_eq_nil_of_isBlankText hu]
    rfl

theorem opening_trim (s : List Char) : opening (trim s) = opening s := by
  obtain ⟨u, v, hu, hv, hs⟩ := exists_blanks_trim s
  have hopening : opening s = opening (u ++ (trim s ++ v)) := congrArg opening hs
  rw [hopening, opening_blanks_append hu, opening_append_blanks hv]

/-- A trimmed text ends in the last character that is not a blank. -/
theorem getLast?_trim (s : List Char) : (trim s).getLast? = closing s := by
  have hstart : closing (trimStart s) = closing s := by
    have hs : s = s.takeWhile isBlank ++ trimStart s := List.takeWhile_append_dropWhile.symm
    have hblanks : isBlankText (s.takeWhile isBlank).reverse = true := by
      rw [isBlankText_reverse]
      exact List.all_takeWhile
    have hclosing := congrArg closing hs
    rw [closing, closing, List.reverse_append, opening_append_blanks hblanks] at hclosing
    exact hclosing.symm
  rw [trim, trimEnd_reverse, List.getLast?_reverse, head?_trimStart, ← closing, hstart]

/-- A text is trimmed when it neither begins nor ends in a blank. -/
theorem trim_eq_self_iff :
    trim s = s ↔ (∀ c ∈ s.head?, isBlank c = false) ∧ ∀ c ∈ s.getLast?, isBlank c = false := by
  constructor
  · intro h
    refine ⟨fun c hc => ?_, fun c hc => ?_⟩
    · rw [← h, head?_trim] at hc
      exact (opening_eq_some_iff.mp hc).1
    · rw [← h, getLast?_trim] at hc
      exact (closing_eq_some_iff.mp hc).1
  · rintro ⟨hhead, hlast⟩
    have hstart : ∀ t : List Char, (∀ c ∈ t.head?, isBlank c = false) → trimStart t = t := by
      intro t ht
      cases t with
      | nil => rfl
      | cons c t => exact trimStart_cons (ht c rfl)
    rw [trim, hstart s hhead, trimEnd_reverse, hstart s.reverse (by simpa using hlast),
      List.reverse_reverse]

theorem trim_trim (s : List Char) : trim (trim s) = trim s := by
  rw [trim_eq_self_iff, head?_trim, getLast?_trim]
  exact ⟨fun c hc => (opening_eq_some_iff.mp hc).1, fun c hc => (closing_eq_some_iff.mp hc).1⟩

/-- Trimming takes off blanks only. -/
theorem mem_trim (hc : isBlank c = false) (h : c ∈ s) : c ∈ trim s := by
  obtain ⟨t, w, rfl⟩ := List.append_of_mem h
  rw [trim_append_cons hc]
  simp

end WatchExpr
