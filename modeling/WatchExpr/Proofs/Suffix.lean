import WatchExpr.Format
import WatchExpr.Proofs.Blank

/-!
# Where a display hint begins

A text either ends in a comma and a letter of a display hint, which are then taken off, or is left
as it is (`splitSuffix_cases`).  Text put in front of an expression does not change what is taken
off its end, unless it brings the comma (`splitSuffix_append_left`).  Blanks before an expression
are trimmed away with the hint or without it (`stripSuffix_blanks_append`), but blanks after it keep
its hint from being one (`splitSuffix_append_blanks`).
-/

namespace WatchExpr

variable {s t u x : List Char} {c : Char} {l : FormatLetter}

theorem isAlpha_of_ofChar? (h : FormatLetter.ofChar? c = some l) : c.isAlpha = true := by
  unfold FormatLetter.ofChar? at h
  split at h <;> first | rfl | cases h

/-- The letters of the display hints, in both cases. -/
def hintLetters : List Char := ['h', 'x', 'b', 'o', 'd', 'H', 'X', 'B', 'O', 'D']

theorem ofChar?_isSome_of_mem (h : c ∈ hintLetters) : ∃ l, FormatLetter.ofChar? c = some l := by
  have hall : hintLetters.all (fun d => (FormatLetter.ofChar? d).isSome) = true := by decide
  exact Option.isSome_iff_exists.mp (List.all_eq_true.mp hall c h)

theorem mem_hintLetters_of_ofChar? (h : FormatLetter.ofChar? c = some l) : c ∈ hintLetters := by
  unfold FormatLetter.ofChar? at h
  split at h <;> first | decide | cases h

theorem isWord_of_ofChar? (h : FormatLetter.ofChar? c = some l) : isWord c = true :=
  isWord_of_isNameStart (by simp [isNameStart, isAlpha_of_ofChar? h])

theorem ofChar?_eq_none_of_isWord (h : isWord c = false) : FormatLetter.ofChar? c = none := by
  rw [Option.eq_none_iff_forall_ne_some]
  intro l hl
  rw [isWord_of_ofChar? hl] at h
  cases h

/-- A hint is found only where the text ends with it. -/
theorem exists_of_findHint? {start place : Nat} (h : findHint? start s = some (place, l)) :
    ∃ x c, FormatLetter.ofChar? c = some l ∧ s = x ++ [',', c] := by
  induction s generalizing start with
  | nil => cases h
  | cons d s ih =>
    rw [findHint?] at h
    split at h
    · next k hhint =>
      obtain ⟨-, rfl⟩ := Prod.mk.inj (Option.some.inj h)
      obtain ⟨c, hs, hc⟩ := hintLetter?_eq_some_iff.mp hhint
      exact ⟨[], c, hc, hs⟩
    · obtain ⟨x, c, hc, rfl⟩ := ih h
      exact ⟨d :: x, c, hc, rfl⟩

/-- The two outcomes: the hint at the end is taken off, or there is none. -/
theorem splitSuffix_cases (s : List Char) :
    (∃ x c l, FormatLetter.ofChar? c = some l ∧ s = x ++ [',', c] ∧ splitSuffix s = (x, some l)) ∨
      splitSuffix s = (s, none) := by
  cases hfind : findHint? 0 s with
  | none => exact .inr (by rw [splitSuffix, hfind])
  | some found =>
    obtain ⟨place, l⟩ := found
    obtain ⟨x, c, hc, rfl⟩ := exists_of_findHint? hfind
    exact .inl ⟨x, c, l, hc, rfl, splitSuffix_append x hc⟩

/-- Without a hint all of the text is left. -/
theorem splitSuffix_fst_of_snd (h : (splitSuffix s).2 = none) : (splitSuffix s).1 = s := by
  rcases splitSuffix_cases s with ⟨x, c, l, -, -, hsplit⟩ | hsplit
  · rw [hsplit] at h
    cases h
  · rw [hsplit]

/-- What is left of a text is the text itself or the text up to a comma and a letter. -/
theorem splitSuffix_fst_cases (s : List Char) :
    (splitSuffix s).1 = s ∨ ∃ c, isWord c = true ∧ s = (splitSuffix s).1 ++ [',', c] := by
  rcases splitSuffix_cases s with ⟨x, c, l, hc, hs, hsplit⟩ | hsplit
  · exact .inr ⟨c, isWord_of_ofChar? hc, by rw [hsplit]; exact hs⟩
  · exact .inl (by rw [hsplit])

theorem head?_of_head?_splitSuffix (h : (splitSuffix s).1.head? = some c) : s.head? = some c := by
  rcases splitSuffix_fst_cases s with hs | ⟨d, -, hs⟩
  · rwa [hs] at h
  · rw [hs, List.head?_append, h]
    rfl

/-- A text whose last character is no letter of a display hint has none. -/
theorem splitSuffix_append_singleton (h : FormatLetter.ofChar? c = none) :
    splitSuffix (s ++ [c]) = (s ++ [c], none) := by
  rcases splitSuffix_cases (s ++ [c]) with ⟨x, d, l, hd, hs, -⟩ | hsplit
  · have hcd : c = d := by simpa using congrArg List.getLast? hs
    rw [hcd, hd] at h
    cases h
  · exact hsplit

theorem splitSuffix_of_comma_notMem (h : ',' ∉ s) : splitSuffix s = (s, none) := by
  rcases splitSuffix_cases s with ⟨x, c, l, -, hs, -⟩ | hsplit
  · rw [hs] at h
    simp at h
  · exact hsplit

/-- Text in front of an expression has no part in its display hint, unless the comma is the last
character of that text. -/
theorem splitSuffix_append_left (hs : s.getLast? ≠ some ',') (ht : t ≠ []) :
    splitSuffix (s ++ t) = (s ++ (splitSuffix t).1, (splitSuffix t).2) := by
  rcases splitSuffix_cases t with ⟨x, c, l, hc, rfl, hsplit⟩ | hsplit
  · rw [hsplit, ← List.append_assoc, splitSuffix_append _ hc]
  rw [hsplit]
  rcases splitSuffix_cases (s ++ t) with ⟨x, c, l, hc, hst, -⟩ | hsplit'
  · exfalso
    have hsuffix : ∀ y, t ≠ y ++ [',', c] := by
      rintro y rfl
      rw [splitSuffix_append _ hc] at hsplit
      simp at hsplit
    rcases List.append_eq_append_iff.mp hst with ⟨y, -, ht'⟩ | ⟨y, rfl, hy⟩
    · exact hsuffix y ht'
    -- The comma and the letter are split over `s` and `t` after none, one or both of them.
    rcases y with _ | ⟨d, _ | ⟨e, y⟩⟩
    · exact hsuffix [] hy.symm
    · obtain ⟨rfl, -⟩ := List.cons.inj hy
      simp at hs
    · have hlength := congrArg List.length hy
      have := List.length_pos_iff.mpr ht
      simp only [List.length_cons, List.length_nil, List.length_append] at hlength
      omega
  · exact hsplit'

/-- Text without a comma in front of an expression stays as it is, even if nothing comes after
it. -/
theorem splitSuffix_append_of_comma_notMem (hs : ',' ∉ s) (t : List Char) :
    splitSuffix (s ++ t) = (s ++ (splitSuffix t).1, (splitSuffix t).2) := by
  by_cases ht : t = []
  · rw [ht, List.append_nil, splitSuffix_of_comma_notMem hs]
    exact Prod.ext (List.append_nil s).symm rfl
  · exact splitSuffix_append_left (fun hlast => hs (List.mem_of_getLast? hlast)) ht

/-- Whatever comes before a character that no display hint has stays as it is. -/
theorem splitSuffix_append_cons (hc : FormatLetter.ofChar? c = none) (hcomma : c ≠ ',')
    (s t : List Char) :
    splitSuffix (s ++ c :: t) = (s ++ c :: (splitSuffix t).1, (splitSuffix t).2) := by
  by_cases ht : t = []
  · rw [ht]
    exact splitSuffix_append_singleton hc
  · have hlast : (s ++ [c]).getLast? ≠ some ',' := by simpa using hcomma
    rw [List.append_cons, splitSuffix_append_left hlast ht, ← List.append_cons]

/-! ### Blanks around an expression -/

theorem stripSuffix_blanks_append (hu : isBlankText u = true) (s : List Char) :
    stripSuffix (u ++ s) = stripSuffix s := by
  rw [stripSuffix, splitSuffix_append_of_comma_notMem (notMem_of_isBlankText (by decide) hu),
    trim_blanks_append hu, stripSuffix]

/-- With a blank after it, a display hint is part of the expression. -/
theorem splitSuffix_append_blanks (hu : isBlankText u = true) (hne : u ≠ []) (s : List Char) :
    splitSuffix (s ++ u) = (s ++ u, none) := by
  obtain ⟨v, x, rfl⟩ := List.eq_nil_or_concat u |>.resolve_left hne
  have hx : isBlank x = true := isBlankText_iff.mp hu x (by simp)
  rw [List.concat_eq_append, ← List.append_assoc,
    splitSuffix_append_singleton (ofChar?_eq_none_of_isWord (isWord_of_isBlank hx))]

theorem stripSuffix_append_blanks (hu : isBlankText u = true) (hne : u ≠ []) (s : List Char) :
    stripSuffix (s ++ u) = trim s := by
  rw [stripSuffix, splitSuffix_append_blanks hu hne, trim_append_blanks hu]

end WatchExpr
