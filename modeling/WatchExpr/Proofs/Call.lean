import Mathlib.Data.List.Induction
import WatchExpr.Call
import WatchExpr.Proofs.Blank

/-!
# Calls as a pattern

`HoldsCall s` says what a call is without a scan: a name, blanks and an opening parenthesis
somewhere in the text.  The scan finds a call exactly where the pattern occurs (`hasCall_iff`).

The proof reads the state of the scan off the text before it: the state is `name` iff that text ends
in a name, and a parenthesis would complete a call iff it ends in a name and blanks.  Both
properties of a text are told from its last character and the text before that one, which is how the
scan moves on.

A character that is no part of a call divides the search (`hasCall_append_cons`).
-/

namespace WatchExpr

variable {s t u : List Char} {c : Char}

/-! ### Names -/

/-- Whether the text is a name: an ASCII letter or an underscore, and word characters after it. -/
def isName : List Char → Bool
  | [] => false
  | c :: rest => isNameStart c && rest.all isWord

theorem isWord_of_isName (h : isName s = true) : ∀ c ∈ s, isWord c = true := by
  cases s with
  | nil => intro c hc; cases hc
  | cons d s =>
    simp only [isName, Bool.and_eq_true, List.all_eq_true] at h
    intro c hc
    rcases List.mem_cons.mp hc with rfl | hc
    · exact isWord_of_isNameStart h.1
    · exact h.2 c hc

theorem notMem_of_isName (hc : isWord c = false) (hs : isName s = true) : c ∉ s := by
  intro h
  rw [isWord_of_isName hs c h] at hc
  cases hc

theorem isName_append_singleton :
    isName (s ++ [c]) = true ↔
      (s = [] ∧ isNameStart c = true) ∨ (isName s = true ∧ isWord c = true) := by
  cases s with
  | nil => simp [isName]
  | cons d s => simp [isName, and_assoc]

/-! ### The pattern -/

/-- The text ends in a name. -/
def EndsInName (s : List Char) : Prop := ∃ t n, isName n = true ∧ s = t ++ n

/-- The text ends in a name and blanks after it, or in a name. -/
def EndsInCallee (s : List Char) : Prop := ∃ t u, EndsInName t ∧ isBlankText u = true ∧ s = t ++ u

/-- Somewhere in the text stand a name, any number of blanks, and an opening parenthesis. -/
def HoldsCall (s : List Char) : Prop :=
  ∃ before name blanks after, isName name = true ∧ isBlankText blanks = true ∧
    s = before ++ (name ++ (blanks ++ '(' :: after))

theorem holdsCall_iff : HoldsCall s ↔ ∃ t r, s = t ++ '(' :: r ∧ EndsInCallee t := by
  constructor
  · rintro ⟨t, n, u, r, hn, hu, rfl⟩
    exact ⟨t ++ n ++ u, r, by simp, t ++ n, u, ⟨t, n, hn, rfl⟩, hu, rfl⟩
  · rintro ⟨_, r, rfl, _, u, ⟨t, n, hn, rfl⟩, hu, rfl⟩
    exact ⟨t, n, u, r, hn, hu, by simp⟩

theorem not_endsInName_nil : ¬ EndsInName [] := by
  rintro ⟨t, n, hn, h⟩
  rw [(List.append_eq_nil_iff.mp h.symm).2] at hn
  cases hn

theorem not_endsInCallee_nil : ¬ EndsInCallee [] := by
  rintro ⟨t, u, ht, -, h⟩
  rw [(List.append_eq_nil_iff.mp h.symm).1] at ht
  exact not_endsInName_nil ht

theorem endsInName_append_singleton :
    EndsInName (s ++ [c]) ↔ isNameStart c = true ∨ (isWord c = true ∧ EndsInName s) := by
  constructor
  · rintro ⟨t, n, hn, h⟩
    rcases List.eq_nil_or_concat n with rfl | ⟨n, d, rfl⟩
    · cases hn
    rw [List.concat_eq_append, ← List.append_assoc] at h
    obtain ⟨rfl, hcd⟩ := List.append_inj' h rfl
    obtain rfl := List.singleton_inj.mp hcd
    rw [List.concat_eq_append, isName_append_singleton] at hn
    rcases hn with ⟨-, hc⟩ | ⟨hn, hc⟩
    · exact .inl hc
    · exact .inr ⟨hc, t, n, hn, rfl⟩
  · rintro (hc | ⟨hc, t, n, hn, rfl⟩)
    · exact ⟨s, [c], isName_append_singleton.mpr (.inl ⟨rfl, hc⟩), rfl⟩
    · exact ⟨t, n ++ [c], isName_append_singleton.mpr (.inr ⟨hn, hc⟩), by simp⟩

theorem endsInCallee_append_singleton :
    EndsInCallee (s ++ [c]) ↔ EndsInName (s ++ [c]) ∨ (isBlank c = true ∧ EndsInCallee s) := by
  -- The last character belongs to the name, or it is one of the blanks after it.
  constructor
  · rintro ⟨t, u, ht, hu, h⟩
    rcases List.eq_nil_or_concat u with rfl | ⟨u, d, rfl⟩
    · rw [List.append_nil] at h
      exact .inl (h ▸ ht)
    rw [List.concat_eq_append, ← List.append_assoc] at h
    obtain ⟨rfl, hcd⟩ := List.append_inj' h rfl
    obtain rfl := List.singleton_inj.mp hcd
    rw [List.concat_eq_append, isBlankText_append] at hu
    exact .inr ⟨by simpa [isBlankText] using hu.2, t, u, ht, hu.1, rfl⟩
  · rintro (h | ⟨hc, t, u, ht, hu, rfl⟩)
    · exact ⟨s ++ [c], [], h, rfl, by simp⟩
    · exact ⟨t, u ++ [c], ht, isBlankText_append.mpr ⟨hu, by simp [isBlankText, hc]⟩, by simp⟩

/-! ### The scan -/

namespace Callee

theorem step_eq_name_iff (k : Callee) (c : Char) :
    k.step c = .name ↔ isNameStart c = true ∨ (isWord c = true ∧ k = .name) := by
  by_cases hdigit : c.isDigit = true
  · have hstart := isNameStart_of_isDigit hdigit
    by_cases hk : k = .name <;> simp [step, isWord, hdigit, hstart, hk]
  · by_cases hstart : isNameStart c = true
    · simp [step, hdigit, hstart]
    · by_cases hblank : isBlank c = true
      · cases hk : k.isCallable <;> simp [step, isWord, hdigit, hstart, hblank, hk]
      · simp [step, isWord, hdigit, hstart, hblank]

theorem isCallable_step_iff (k : Callee) (c : Char) :
    (k.step c).isCallable = true ↔ k.step c = .name ∨ (isBlank c = true ∧ k.isCallable = true) := by
  by_cases hword : isWord c = true
  · have hblank := isBlank_of_isWord hword
    have hcases : k.step c = .name ∨ k.step c = .number := by
      rcases Bool.or_eq_true_iff.mp hword with h | h
      · by_cases hk : k = .name <;> simp [step, h, hk]
      · by_cases hdigit : c.isDigit = true
        · by_cases hk : k = .name <;> simp [step, hdigit, hk]
        · simp [step, hdigit, h]
    rcases hcases with h | h <;> simp [h, hblank, isCallable]
  · simp only [isWord, Bool.or_eq_true, not_or] at hword
    by_cases hblank : isBlank c = true
    · have hstep : k.step c = if k.isCallable then .spaced else .absent := by
        simp [step, hword, hblank]
      rw [hstep]
      cases k.isCallable <;> simp [hblank, isCallable]
    · simp [step, hword, hblank, isCallable]

/-- What the state of the scan says about the text before it. -/
theorem foldl_step_iff (s : List Char) :
    (s.foldl step .absent = .name ↔ EndsInName s) ∧
      ((s.foldl step .absent).isCallable = true ↔ EndsInCallee s) := by
  -- The induction is on the end of the text, where the scan takes its next step.
  induction s using List.reverseRecOn with
  | nil => simp [isCallable, not_endsInName_nil, not_endsInCallee_nil]
  | append_singleton s c ih =>
    obtain ⟨ihname, ihcallee⟩ := ih
    have hname : (s ++ [c]).foldl step .absent = .name ↔ EndsInName (s ++ [c]) := by
      rw [List.foldl_append, List.foldl_cons, List.foldl_nil, step_eq_name_iff, ihname,
        endsInName_append_singleton]
    refine ⟨hname, ?_⟩
    rw [endsInCallee_append_singleton, ← hname, ← ihcallee]
    rw [List.foldl_append, List.foldl_cons, List.foldl_nil, isCallable_step_iff]

theorem hasCallFrom_iff (k : Callee) (s : List Char) :
    hasCallFrom k s = true ↔ ∃ t r, s = t ++ '(' :: r ∧ (t.foldl step k).isCallable = true := by
  induction s generalizing k with
  | nil => simp
  | cons c s ih =>
    rw [hasCallFrom_cons, Bool.or_eq_true, Bool.and_eq_true, beq_iff_eq, ih]
    constructor
    · rintro (⟨rfl, hk⟩ | ⟨t, r, rfl, ht⟩)
      · exact ⟨[], s, rfl, hk⟩
      · exact ⟨c :: t, r, rfl, ht⟩
    · rintro ⟨t, r, hs, ht⟩
      cases t with
      | nil =>
        obtain ⟨rfl, rfl⟩ := List.cons.inj hs
        exact .inl ⟨rfl, ht⟩
      | cons d t =>
        obtain ⟨rfl, rfl⟩ := List.cons.inj hs
        exact .inr ⟨t, r, rfl, ht⟩

/-- Nothing that could be called begins with a character other than a word character. -/
theorem step_absent (hword : isWord c = false) : step .absent c = .absent := by
  obtain ⟨hdigit, hstart⟩ := Bool.or_eq_false_iff.mp hword
  simp [step, hdigit, hstart, isCallable]

theorem step_eq_absent (hword : isWord c = false) (hblank : isBlank c = false) (k : Callee) :
    k.step c = .absent := by
  obtain ⟨hdigit, hstart⟩ := Bool.or_eq_false_iff.mp hword
  simp [step, hdigit, hstart, hblank]

theorem hasCallFrom_eq_false (h : '(' ∉ s) (k : Callee) : hasCallFrom k s = false := by
  induction s generalizing k with
  | nil => rfl
  | cons c s ih =>
    rw [List.mem_cons, not_or] at h
    rw [hasCallFrom_cons, ih h.2, beq_false_of_ne (Ne.symm h.1)]
    rfl

end Callee

/-- The scan finds a call exactly in the texts that hold one. -/
theorem hasCall_iff : hasCall s = true ↔ HoldsCall s := by
  rw [hasCall, Callee.hasCallFrom_iff, holdsCall_iff]
  refine exists_congr fun t => exists_congr fun r => and_congr_right fun _ => ?_
  exact (Callee.foldl_step_iff t).2

theorem hasLeadingParen_iff : hasLeadingParen s = true ↔ opening s = some '(' := by
  rw [hasLeadingParen, head?_trimStart, beq_iff_eq]

/-! ### Calls in the parts of a text -/

theorem hasCall_of_append (h : hasCall (s ++ t) = false) : hasCall s = false := by
  rw [hasCall, Callee.hasCallFrom_append, Bool.or_eq_false_iff] at h
  exact h.1

/-- A call is a call whatever stands before it. -/
theorem hasCall_of_append_right (h : hasCall (s ++ t) = false) : hasCall t = false := by
  rw [Bool.eq_false_iff, ne_eq, hasCall_iff] at h ⊢
  rintro ⟨before, name, blanks, after, hname, hblanks, rfl⟩
  exact h ⟨s ++ before, name, blanks, after, hname, hblanks, by simp⟩

/-- A text without a parenthesis completes no call. -/
theorem hasCall_append_of_notMem (h : '(' ∉ t) (s : List Char) : hasCall (s ++ t) = hasCall s := by
  rw [hasCall, Callee.hasCallFrom_append, Callee.hasCallFrom_eq_false h, Bool.or_false, hasCall]

/-- A character that is no word character has nothing that could be called after it. -/
theorem hasCall_cons_of_not_isWord (h : isWord c = false) (s : List Char) :
    hasCall (c :: s) = hasCall s := by
  rw [hasCall, Callee.hasCallFrom_cons, Callee.step_absent h, Callee.isCallable, Bool.and_false,
    Bool.false_or, hasCall]

theorem hasCall_blanks_append (hu : isBlankText u = true) (s : List Char) :
    hasCall (u ++ s) = hasCall s := by
  induction u with
  | nil => rfl
  | cons c u ih =>
    obtain ⟨hc, hu⟩ := Bool.and_eq_true_iff.mp hu
    rw [List.cons_append, hasCall_cons_of_not_isWord (isWord_of_isBlank hc), ih hu]

/-- A character that is no part of a call divides the calls into those before it and those after
it. -/
theorem hasCall_append_cons (hword : isWord c = false) (hblank : isBlank c = false) (hc : c ≠ '(')
    (s t : List Char) : hasCall (s ++ c :: t) = (hasCall s || hasCall t) := by
  rw [hasCall, Callee.hasCallFrom_append, Callee.hasCallFrom_cons,
    Callee.step_eq_absent hword hblank, beq_false_of_ne hc, Bool.false_and, Bool.false_or, hasCall,
    hasCall]

end WatchExpr
