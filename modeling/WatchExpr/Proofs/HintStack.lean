import Mathlib.Data.List.Induction
import WatchExpr.Proofs.Alike
import WatchExpr.Value.Request

/-!
# Hints on top of each other

Any number of display hints can be appended to a text.  Splitting takes them off again, the last one
first, and after as many splits as there were hints the text is left as it was, with the blanks and
the hints that it had of its own (`splitTimes_appendHints`).  The letters come off in lower case.

Nothing is taken off a text exactly when it does not end in a comma and a letter
(`splitSuffix_eq_none_iff`).  Which characters are letters is known in two places, where a hint is
looked for and in the table of formats, and the two agree on every character
(`ofLetter?_singleton`).  So there is a format for every letter that comes off
(`displayFormat?_of_ofChar?`).
-/

namespace WatchExpr

variable {s cs : List Char} {c : Char} {l : FormatLetter}

/-! ### Letters -/

/-- The characters that have a format in the table are those that a hint can end in. -/
theorem ofLetter?_singleton (c : Char) :
    DisplayFormat.ofLetter? [c] = (FormatLetter.ofChar? c).map FormatLetter.displayFormat := by
  rw [DisplayFormat.ofLetter?, List.map_singleton]
  cases h : FormatLetter.ofChar? c with
  | some l =>
    rw [ofChar?_eq_some_iff.mp h]
    cases l <;> rfl
  | none =>
    rw [Option.map_none, List.lookup_eq_none_iff]
    intro entry hentry
    -- The keys of the table are the letters, and the character is none of them in lower case.
    have hkeys : formatTable.map Prod.fst = FormatLetter.all.map fun l => [l.toChar] := rfl
    have hkey : entry.1 ∈ formatTable.map Prod.fst := List.mem_map_of_mem hentry
    rw [hkeys] at hkey
    obtain ⟨l, -, hl⟩ := List.mem_map.mp hkey
    rw [← hl, bne_iff_ne]
    intro hlower
    rw [ofChar?_eq_some_iff.mpr (List.head_eq_of_cons_eq hlower)] at h
    cases h

/-- A letter has a format in either case. -/
theorem displayFormat?_of_ofChar? (h : FormatLetter.ofChar? c = some l) :
    Value.displayFormat? (.text [c]) = .ok (some l.displayFormat) := by
  show Except.ok (DisplayFormat.ofLetter? [c]) = _
  rw [ofLetter?_singleton, h]
  rfl

/-- A letter is written in lower case, in whichever case it was read. -/
theorem map_toChar_ofChar? (h : c ∈ hintLetters) :
    (FormatLetter.ofChar? c).map FormatLetter.toChar = some c.toLower := by
  obtain ⟨l, hl⟩ := ofChar?_isSome_of_mem h
  rw [hl, ofChar?_eq_some_iff.mp hl]
  rfl

/-! ### One hint -/

theorem splitSuffix_append_of_mem (h : c ∈ hintLetters) (s : List Char) :
    splitSuffix (s ++ [',', c]) = (s, FormatLetter.ofChar? c) := by
  obtain ⟨l, hl⟩ := ofChar?_isSome_of_mem h
  rw [splitSuffix_append s hl, hl]

/-- A text is left as it is exactly when it does not end in a comma and a letter. -/
theorem splitSuffix_eq_none_iff :
    splitSuffix s = (s, none) ↔ ¬ ∃ x, ∃ c ∈ hintLetters, s = x ++ [',', c] := by
  constructor
  · rintro h ⟨x, c, hc, rfl⟩
    have hlength := congrArg (fun p => p.1.length) h
    rw [splitSuffix_append_of_mem hc] at hlength
    simp at hlength
  · intro h
    rcases splitSuffix_cases s with ⟨x, c, l, hc, hs, -⟩ | hsplit
    · exact absurd ⟨x, c, mem_hintLetters_of_ofChar? hc, hs⟩ h
    · exact hsplit

/-! ### Many hints -/

/-- The text with a display hint after it for each of the letters, in their order. -/
def appendHints (s letters : List Char) : List Char := s ++ letters.flatMap fun c => [',', c]

/-- Splits a text `n` times, each time what was left by the split before: the letters in the order
in which they come off, and what is left in the end. -/
def splitTimes : Nat → List Char → List (Option FormatLetter) × List Char
  | 0, s => ([], s)
  | n + 1, s =>
    let later := splitTimes n (splitSuffix s).1
    ((splitSuffix s).2 :: later.1, later.2)

theorem appendHints_concat (s cs : List Char) (c : Char) :
    appendHints s (cs ++ [c]) = appendHints s cs ++ [',', c] := by
  simp [appendHints]

/-- The hints that were appended come off in the reverse order, and nothing else does. -/
theorem splitTimes_appendHints (h : ∀ c ∈ cs, c ∈ hintLetters) (s : List Char) :
    splitTimes cs.length (appendHints s cs) = (cs.reverse.map FormatLetter.ofChar?, s) := by
  -- By induction on the end of `cs`, for the last hint comes off first.
  induction cs using List.reverseRecOn with
  | nil => exact Prod.ext rfl (List.append_nil s)
  | append_singleton cs c ih =>
    have hc : c ∈ hintLetters := h c (by simp)
    have hcs : ∀ d ∈ cs, d ∈ hintLetters := fun d hd => h d (List.mem_append_left [c] hd)
    rw [List.length_append, List.length_singleton, splitTimes, appendHints_concat,
      splitSuffix_append_of_mem hc, ih hcs, List.reverse_concat]
    rfl

/-- Splitting undoes the appending of hints, however many there are: the letters come off in lower
case, the last one first, and the text that they were appended to is left.  A text is left as it is
if it ends in no hint; else its last two characters come off, and there is a format for the
letter. -/
theorem splitSuffix_inverts_appendHints :
    (∀ s cs : List Char, (∀ c ∈ cs, c ∈ hintLetters) →
        (splitTimes cs.length (appendHints s cs)).1.map (Option.map FormatLetter.toChar)
            = cs.reverse.map (fun c => some c.toLower) ∧
          (splitTimes cs.length (appendHints s cs)).2 = s) ∧
      (∀ e : List Char,
        splitSuffix e = (e, none) ↔ ¬ ∃ x, ∃ c ∈ hintLetters, e = x ++ [',', c]) ∧
      ∀ x : List Char, ∀ c ∈ hintLetters, ∃ l, splitSuffix (x ++ [',', c]) = (x, some l) ∧
        l.toChar = c.toLower ∧ ∃ f, Value.displayFormat? (.text [l.toChar]) = .ok (some f) := by
  refine ⟨fun s cs hcs => ?_, fun e => splitSuffix_eq_none_iff, fun x c hc => ?_⟩
  · rw [splitTimes_appendHints hcs, List.map_map]
    refine ⟨List.map_congr_left fun c hc => ?_, rfl⟩
    exact map_toChar_ofChar? (hcs c (List.mem_reverse.mp hc))
  · obtain ⟨l, hl⟩ := ofChar?_isSome_of_mem hc
    refine ⟨l, splitSuffix_append x hl, (ofChar?_eq_some_iff.mp hl).symm, l.displayFormat, ?_⟩
    exact displayFormat?_of_ofChar? (FormatLetter.ofChar?_toChar l)

/-- Two hints after a text that ends in one: two splits leave it with the one that it had. -/
theorem splitSuffix_inverts_appendHints_own_hint :
    (∀ c ∈ ['D', 'h'], c ∈ hintLetters) ∧
      (splitTimes 2 ['a', ',', 'x', ',', 'D', ',', 'h']).1.map (Option.map FormatLetter.toChar)
        = [some 'h', some 'd'] ∧
      (splitTimes 2 ['a', ',', 'x', ',', 'D', ',', 'h']).2 = ['a', ',', 'x'] ∧
      'D' ∈ hintLetters ∧
      ∃ l, splitSuffix ['a', ',', 'x', ',', 'D'] = (['a', ',', 'x'], some l) ∧ l.toChar = 'd' ∧
        ∃ f, Value.displayFormat? (.text [l.toChar]) = .ok (some f) := by
  have hletters : ∀ c ∈ ['D', 'h'], c ∈ hintLetters := by simp [hintLetters]
  have hd : 'D' ∈ hintLetters := by decide
  obtain ⟨htimes, -, hsplit⟩ := splitSuffix_inverts_appendHints
  obtain ⟨hoff, hleft⟩ := htimes ['a', ',', 'x'] ['D', 'h'] hletters
  exact ⟨hletters, hoff, hleft, hd, hsplit ['a', ',', 'x'] 'D' hd⟩

/-- A line feed after the letter keeps the hint from being one. -/
example : splitSuffix ['a', ',', 'h', '\n'] = (['a', ',', 'h', '\n'], none) := by decide

end WatchExpr
