import WatchExpr.Refusal
import WatchExpr.Proofs.Call

/-!
# Called runs

The check for calls reads a text run by run.  Once a run that is called has been read, the scan goes
on after the parenthesis, and a run that is digits alone is passed over.  Nothing is missed by that
and nothing made up: the scan finds a call exactly where the scan by characters does
(`callsRun_eq_hasCall`).

The two scans are compared at every character.  What the one has read ahead and the other has not is
said by `InStep`, which each character preserves: between two runs, in a run that is not called, or
in digits that are.
-/

namespace WatchExpr

variable {c : Char} {s run : List Char} {n : Nat}

/-! ### The run at the start of a text -/

/-- What is read as a called run: word characters, blanks and the parenthesis. -/
theorem exists_of_calledRun? (h : calledRun? s = some (run, n)) :
    ∃ blanks rest, run = s.takeWhile isWord ∧ isBlankText blanks = true ∧
      s = run ++ (blanks ++ '(' :: rest) ∧ n = run.length + blanks.length + 1 := by
  unfold calledRun? at h
  dsimp only at h
  split at h
  · next hcond =>
    obtain ⟨rfl, rfl⟩ := Prod.mk.inj (Option.some.inj h)
    rw [Bool.and_eq_true, hasLeadingParen, beq_iff_eq] at hcond
    obtain ⟨rest, hrest⟩ := List.head?_eq_some_iff.mp hcond.2
    refine ⟨(s.dropWhile isWord).takeWhile isBlank, rest, rfl, List.all_takeWhile, ?_, rfl⟩
    rw [← hrest, trimStart, List.takeWhile_append_dropWhile, List.takeWhile_append_dropWhile]
  · cases h

/-- A run that is not read as a called one has no parenthesis after it. -/
theorem hasLeadingParen_of_calledRun? (hc : isWord c = true) (h : calledRun? (c :: s) = none) :
    hasLeadingParen (s.dropWhile isWord) = false := by
  unfold calledRun? at h
  rw [List.takeWhile_cons_of_pos hc, List.dropWhile_cons_of_pos hc] at h
  rw [Bool.eq_false_iff]
  intro hparen
  dsimp only at h
  rw [hparen] at h
  cases h

theorem calledRun?_cons (hc : isWord c = false) (s : List Char) : calledRun? (c :: s) = none := by
  unfold calledRun?
  rw [List.takeWhile_cons_of_neg (by simp [hc])]
  rfl

theorem hasLeadingParen_cons (hc : isBlank c = true) (s : List Char) :
    hasLeadingParen (c :: s) = hasLeadingParen s := by
  rw [hasLeadingParen, trimStart, List.dropWhile_cons_of_pos hc]
  rfl

theorem ne_paren_of_hasLeadingParen (h : hasLeadingParen (c :: s) = false) : c ≠ '(' := by
  rintro rfl
  exact absurd h (by simp [hasLeadingParen, trimStart_cons (c := '(') (by decide)])

namespace Callee

variable {k : Callee} {u : List Char}

/-! ### The scan by characters on a run -/

/-- A run that is not digits alone is a name, whatever stands before it. -/
theorem foldl_step_run (hrun : ∀ d ∈ run, isWord d = true) (hname : run.all Char.isDigit = false)
    (k : Callee) : run.foldl step k = .name := by
  -- After the first character that is no digit the state is `name` and stays so.
  have hkept : ∀ t : List Char, (∀ d ∈ t, isWord d = true) → t.foldl step .name = .name := by
    intro t
    induction t with
    | nil => intro _; rfl
    | cons d t ih =>
      intro ht
      have hd : step .name d = .name :=
        (step_eq_name_iff .name d).mpr (.inr ⟨ht d (List.mem_cons_self ..), rfl⟩)
      rw [List.foldl_cons, hd]
      exact ih fun x hx => ht x (List.mem_cons_of_mem d hx)
  induction run generalizing k with
  | nil => cases hname
  | cons d run ih =>
    have hword := hrun d (List.mem_cons_self ..)
    have hrest : ∀ x ∈ run, isWord x = true := fun x hx => hrun x (List.mem_cons_of_mem d hx)
    rw [List.foldl_cons]
    by_cases hdigit : d.isDigit = true
    · rw [List.all_cons, hdigit, Bool.true_and] at hname
      exact ih hrest hname (k.step d)
    · have hstart : isNameStart d = true := by simpa [isWord, hdigit] using hword
      rw [(step_eq_name_iff k d).mpr (.inl hstart)]
      exact hkept run hrest

/-- What can be called can be called after blanks. -/
theorem isCallable_foldl_blanks (hu : isBlankText u = true) (hk : k.isCallable = true) :
    (u.foldl step k).isCallable = true := by
  induction u generalizing k with
  | nil => exact hk
  | cons d u ih =>
    rw [isBlankText, List.all_cons, Bool.and_eq_true] at hu
    exact ih hu.2 ((isCallable_step_iff k d).mpr (.inr ⟨hu.1, hk⟩))

/-- A run that is not digits alone is called, whatever stands before it. -/
theorem hasCallFrom_run (hrun : ∀ d ∈ run, isWord d = true) (hname : run.all Char.isDigit = false)
    (hu : isBlankText u = true) (k : Callee) (t : List Char) :
    hasCallFrom k (run ++ (u ++ '(' :: t)) = true := by
  refine (hasCallFrom_iff k _).mpr ⟨run ++ u, t, (List.append_assoc ..).symm, ?_⟩
  rw [List.foldl_append, foldl_step_run hrun hname]
  exact isCallable_foldl_blanks hu rfl

/-- Neither a digit nor a blank makes a name of what cannot be called. -/
theorem isCallable_step_eq_false (hc : isNameStart c = false) (hk : k.isCallable = false) :
    (k.step c).isCallable = false := by
  have hname : k ≠ .name := by
    rintro rfl
    cases hk
  rw [Bool.eq_false_iff, ne_eq, isCallable_step_iff, step_eq_name_iff, hc, hk]
  simp [hname]

/-! ### The two scans in step -/

/-- The scan by runs, with `skip` characters to skip and `afterWord` for the character before them,
and the scan by characters in the state `k` have both read what stands before the text. -/
inductive InStep : Nat → Bool → Callee → List Char → Prop where
  /-- No run is being read, and none that has been read is called from here on. -/
  | between {k : Callee} {s : List Char} (hname : k ≠ .name)
      (hcallable : k.isCallable = true → hasLeadingParen s = false) : InStep 0 false k s
  /-- A run is being read that is not called. -/
  | uncalled {k : Callee} {s : List Char} (hparen : hasLeadingParen (s.dropWhile isWord) = false) :
      InStep 0 true k s
  /-- Digits are being read that are called, or the blanks after them. -/
  | called {k : Callee} {s digits blanks rest : List Char} (afterWord : Bool)
      (hk : k.isCallable = false) (hdigits : ∀ d ∈ digits, d.isDigit = true)
      (hblanks : isBlankText blanks = true) (hs : s = digits ++ (blanks ++ '(' :: rest)) :
      InStep (digits.length + blanks.length + 1) afterWord k s

/-- What a character does to the two scans, the one in `skip` and `afterWord` and the other in `k`:
both have found a call, or neither has found one yet and they go on in step. -/
def Advances (skip : Nat) (afterWord : Bool) (k : Callee) (c : Char) (s : List Char) : Prop :=
  (callsRunFrom skip afterWord (c :: s) = true ∧ hasCallFrom k (c :: s) = true) ∨
    ∃ n, callsRunFrom skip afterWord (c :: s) = callsRunFrom n (isWord c) s ∧
      hasCallFrom k (c :: s) = hasCallFrom (k.step c) s ∧ InStep n (isWord c) (k.step c) s

theorem hasCallFrom_cons_of_ne (hc : c ≠ '(') (k : Callee) (s : List Char) :
    hasCallFrom k (c :: s) = hasCallFrom (k.step c) s := by
  rw [hasCallFrom_cons, beq_false_of_ne hc, Bool.false_and, Bool.false_or]

theorem ne_paren_of_isWord (hc : isWord c = true) : c ≠ '(' := by
  rintro rfl
  exact absurd hc (by decide)

/-- A character that is no word character ends a run that is not called. -/
theorem advances_of_not_isWord {afterWord : Bool} (hc : isWord c = false)
    (hparen : k.isCallable = true → hasLeadingParen (c :: s) = false) :
    Advances 0 afterWord k c s := by
  have hname : k.step c ≠ .name := by
    rw [ne_eq, step_eq_name_iff, hc, (Bool.or_eq_false_iff.mp hc).2]
    simp
  refine .inr ⟨0, ?_, ?_, ?_⟩
  · cases afterWord with
    | true => rfl
    | false => rw [callsRunFrom, calledRun?_cons hc]
  · rw [hasCallFrom_cons]
    cases hk : k.isCallable with
    | true => rw [beq_false_of_ne (ne_paren_of_hasLeadingParen (hparen hk)), Bool.false_and]; rfl
    | false => rw [Bool.and_false, Bool.false_or]
  · rw [hc]
    apply InStep.between hname
    intro hcallable
    obtain ⟨hblank, hk⟩ := ((isCallable_step_iff k c).mp hcallable).resolve_left hname
    rw [← hasLeadingParen_cons hblank]
    exact hparen hk

/-- A run that begins here is called or not. -/
theorem advances_between (hname : k ≠ .name)
    (hcallable : k.isCallable = true → hasLeadingParen (c :: s) = false) :
    Advances 0 false k c s := by
  by_cases hc : isWord c = true
  · have hskip := hasCallFrom_cons_of_ne (ne_paren_of_isWord hc) k s
    cases hrun : calledRun? (c :: s) with
    | none =>
      refine .inr ⟨0, ?_, hskip, ?_⟩
      · rw [callsRunFrom, hrun]
      · rw [hc]
        exact .uncalled (hasLeadingParen_of_calledRun? hc hrun)
    | some p =>
      obtain ⟨run, n⟩ := p
      obtain ⟨blanks, rest, hread, hblanks, hs, rfl⟩ := exists_of_calledRun? hrun
      have hword : ∀ d ∈ run, isWord d = true := by
        rw [hread]
        exact List.all_eq_true.mp List.all_takeWhile
      cases hdigits : run.all Char.isDigit with
      | false =>
        refine .inl ⟨?_, ?_⟩
        · rw [callsRunFrom, hrun]
          simp [hdigits]
        · rw [hs]
          exact hasCallFrom_run hword hdigits hblanks k rest
      | true =>
        -- The run begins with `c`, and the rest of it is skipped.
        rw [List.takeWhile_cons_of_pos hc] at hread
        subst hread
        rw [List.all_cons, Bool.and_eq_true] at hdigits
        have hnumber : k.step c = .number := by simp [step, hdigits.1, hname]
        refine .inr ⟨_, ?_, hskip, .called (isWord c) (by rw [hnumber]; rfl)
          (List.all_eq_true.mp hdigits.2) hblanks (List.cons.inj hs).2⟩
        rw [callsRunFrom, hrun]
        dsimp only
        rw [List.all_cons, hdigits.1, hdigits.2, List.length_cons, Nat.add_sub_cancel,
          Nat.add_right_comm]
        rfl
  · rw [Bool.not_eq_true] at hc
    exact advances_of_not_isWord hc hcallable

theorem advances_uncalled (hparen : hasLeadingParen ((c :: s).dropWhile isWord) = false) :
    Advances 0 true k c s := by
  by_cases hc : isWord c = true
  · refine .inr ⟨0, rfl, hasCallFrom_cons_of_ne (ne_paren_of_isWord hc) k s, ?_⟩
    rw [List.dropWhile_cons_of_pos hc] at hparen
    rw [hc]
    exact .uncalled hparen
  · rw [List.dropWhile_cons_of_neg hc] at hparen
    rw [Bool.not_eq_true] at hc
    exact advances_of_not_isWord hc fun _ => hparen

/-- The blanks and the parenthesis after digits are skipped, and so are the digits. -/
theorem advances_called {digits blanks rest : List Char} {afterWord : Bool}
    (hk : k.isCallable = false) (hdigits : ∀ d ∈ digits, d.isDigit = true)
    (hblanks : isBlankText blanks = true) (hs : c :: s = digits ++ (blanks ++ '(' :: rest)) :
    Advances (digits.length + blanks.length + 1) afterWord k c s := by
  refine .inr ⟨digits.length + blanks.length, rfl, ?_, ?_⟩
  · rw [hasCallFrom_cons, hk, Bool.and_false, Bool.false_or]
  cases digits with
  | nil =>
    cases blanks with
    | nil =>
      obtain ⟨rfl, rfl⟩ := List.cons.inj hs
      rw [step_eq_absent (by decide) (by decide)]
      exact .between (by decide) fun h => absurd h (by decide)
    | cons d blanks =>
      obtain ⟨rfl, rfl⟩ := List.cons.inj hs
      rw [isBlankText, List.all_cons, Bool.and_eq_true] at hblanks
      have hstart := (Bool.or_eq_false_iff.mp (isWord_of_isBlank hblanks.1)).2
      have hstep := isCallable_step_eq_false hstart hk
      exact .called (isWord c) hstep hdigits hblanks.2 rfl
  | cons d digits =>
    obtain ⟨rfl, rfl⟩ := List.cons.inj hs
    have hstart := isNameStart_of_isDigit (hdigits c (List.mem_cons_self ..))
    have hstep := isCallable_step_eq_false hstart hk
    have hrest : ∀ d ∈ digits, d.isDigit = true := fun d hd =>
      hdigits d (List.mem_cons_of_mem c hd)
    rw [List.length_cons, Nat.add_right_comm]
    exact .called (isWord c) hstep hrest hblanks rfl

/-- From two states in step on, the two scans find the same. -/
theorem callsRunFrom_eq_hasCallFrom {skip : Nat} {afterWord : Bool}
    (h : InStep skip afterWord k s) : callsRunFrom skip afterWord s = hasCallFrom k s := by
  induction s generalizing skip afterWord k with
  | nil => cases skip <;> cases afterWord <;> rfl
  | cons c s ih =>
    have hadvances : Advances skip afterWord k c s := by
      cases h with
      | between hname hcallable => exact advances_between hname hcallable
      | uncalled hparen => exact advances_uncalled hparen
      | called _ hk hdigits hblanks hs => exact advances_called hk hdigits hblanks hs
    rcases hadvances with ⟨hrun, hcall⟩ | ⟨n, hrun, hcall, hstep⟩
    · rw [hrun, hcall]
    · rw [hrun, hcall, ih hstep]

end Callee

/-- A call is found run by run where it is found character by character. -/
theorem callsRun_eq_hasCall (s : List Char) : callsRun s = hasCall s :=
  Callee.callsRunFrom_eq_hasCallFrom (.between (by decide) fun h => absurd h (by decide))

/-! ### The form of a text -/

/-- The checks on the form of a text, with the scan by characters. -/
theorem formRefusal?_eq (s : List Char) :
    formRefusal? s =
      if Literal.isNumeric s then some .numericLiteral
      else if Literal.isQuoted s then some .quotedLiteral
      else if hasCall s then some .call
      else if hasLeadingParen s then some .parenthesized
      else none := by
  rw [formRefusal?, callsRun_eq_hasCall]

theorem formRefusal?_eq_none_iff :
    formRefusal? s = none ↔
      Literal.isNumeric s = false ∧ Literal.isQuoted s = false ∧ hasCall s = false
        ∧ hasLeadingParen s = false := by
  rw [formRefusal?_eq]
  repeat' split
  all_goals simp_all

end WatchExpr
