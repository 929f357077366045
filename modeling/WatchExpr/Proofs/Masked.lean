import Mathlib.Data.List.Induction
import WatchExpr.Proofs.Consistency
import WatchExpr.Proofs.Literal
import WatchExpr.Proofs.Run
import WatchExpr.Proofs.Suffix
import WatchExpr.Proofs.View

/-!
# The masked view as an expression

The masked view of an expression can be typed in its turn.  It is its own masked view (`mask_mask`),
and the checks find in it what they find in the text.  It begins as the text does, and it ends in a
bracket or as the text does (`exists_append_of_mask_eq`).  It holds no call that the text does not
hold (`hasCall_mask`), for two characters that are neighbours in the view are so in the text, or one
of them is a bracket or the placeholder before it.

So the view stands for the expression: there is nothing to strip from it, and its verdict has the
same reason (`classify_masked`).
-/

namespace WatchExpr

variable {b e m s x : List Char} {c : Char} {n : Nat}

namespace Subscript

/-! ### The two ends of the view -/

/-- Where the view does not end in a bracket, it ends as the text does. -/
theorem exists_append_of_mask_eq (hopen : c ≠ '[') (hclose : c ≠ ']') (h : mask s = x ++ [c]) :
    ∃ t, s = t ++ [c] ∧ mask t = x ∧ depth t = 0 := by
  -- The induction is on the end of the text, which an open subscript can hide.
  induction s using List.reverseRecOn with
  | nil => exact absurd (congrArg List.length h) (by simp [mask])
  | append_singleton t d ih =>
    rw [mask_append, maskFrom_cons, maskFrom_nil, List.append_nil] at h
    cases d using bracketCases with
    | opener =>
      have hlast := (List.append_inj' h rfl).2
      exact absurd (List.singleton_inj.mp hlast).symm hopen
    | closer =>
      obtain ⟨r, hr⟩ := exists_shown_close (depth t)
      rw [hr, ← List.append_assoc] at h
      have hlast := (List.append_inj' h rfl).2
      exact absurd (List.singleton_inj.mp hlast).symm hclose
    | other d hdopen hdclose =>
      rw [shown_of_ne hdopen hdclose] at h
      by_cases hdepth : depth t = 0
      · rw [if_pos hdepth] at h
        obtain ⟨hmask, hd⟩ := List.append_inj' h rfl
        exact ⟨t, by rw [List.singleton_inj.mp hd], hmask, hdepth⟩
      · -- Inside a subscript only brackets are shown, so the view cannot end in `c` there.
        rw [if_neg hdepth, List.append_nil] at h
        obtain ⟨r, rfl, -, hr⟩ := ih h
        rw [depth, depthFrom_append, ← depth, hr, depthFrom_cons, nest_of_ne hopen hclose] at hdepth
        exact absurd rfl hdepth

theorem getLast?_of_getLast?_mask (hopen : c ≠ '[') (hclose : c ≠ ']')
    (h : (mask s).getLast? = some c) : s.getLast? = some c := by
  obtain ⟨x, hx⟩ := List.getLast?_eq_some_iff.mp h
  obtain ⟨t, rfl, -⟩ := exists_append_of_mask_eq hopen hclose hx
  simp

/-- The view of a trimmed text is trimmed. -/
theorem trim_mask (h : trim s = s) : trim (mask s) = mask s := by
  obtain ⟨hhead, hlast⟩ := trim_eq_self_iff.mp h
  refine trim_eq_self_iff.mpr ⟨?_, fun c hc => ?_⟩
  · rwa [head?_mask]
  · obtain ⟨x, hx⟩ := List.getLast?_eq_some_iff.mp hc
    cases c using bracketCases with
    | opener => decide
    | closer => decide
    | other c hopen hclose =>
      obtain ⟨t, rfl, -⟩ := exists_append_of_mask_eq hopen hclose hx
      exact hlast c (by simp)

/-- The view of a text without a display hint has none. -/
theorem splitSuffix_mask (h : (splitSuffix s).2 = none) :
    splitSuffix (mask s) = (mask s, none) := by
  rcases splitSuffix_cases (mask s) with ⟨x, c, l, hc, hmask, -⟩ | hsplit
  · have hne : ∀ d, isWord d = false → c ≠ d := by
      rintro d hd rfl
      rw [isWord_of_ofChar? hc] at hd
      cases hd
    rw [List.append_cons] at hmask
    obtain ⟨t, rfl, hcomma, -⟩ :=
      exists_append_of_mask_eq (hne '[' (by decide)) (hne ']' (by decide)) hmask
    obtain ⟨t, rfl, -⟩ := exists_append_of_mask_eq (by decide) (by decide) hcomma
    rw [List.append_assoc, List.singleton_append, splitSuffix_append t hc] at h
    cases h
  · exact hsplit

/-! ### The form of the view -/

/-- The brackets of a text are all in its view. -/
theorem bracketFree_of_maskFrom (h : BracketFree (maskFrom n s)) : BracketFree s := by
  induction s generalizing n with
  | nil => exact h
  | cons c s ih =>
    rw [maskFrom_cons, bracketFree_append] at h
    refine bracketFree_cons.mpr ⟨⟨?_, ?_⟩, ih h.2⟩
    · rintro rfl
      exact h.1.1 (by simp [shown])
    · rintro rfl
      obtain ⟨r, hr⟩ := exists_shown_close n
      rw [hr] at h
      exact h.1.2 (by simp)

/-- The view is a number only where it is the text itself. -/
theorem isNumeric_mask (h : Literal.isNumeric s = false) : Literal.isNumeric (mask s) = false := by
  rw [Bool.eq_false_iff]
  intro hnumeric
  have hview : BracketFree (mask s) :=
    ⟨fun hmem => absurd (Literal.isWord_or_of_isNumeric hnumeric hmem) (by decide),
      fun hmem => absurd (Literal.isWord_or_of_isNumeric hnumeric hmem) (by decide)⟩
  have hfree : BracketFree s := bracketFree_of_maskFrom hview
  rw [mask_of_bracketFree hfree, h] at hnumeric
  cases hnumeric

/-- No call is completed in the view without being completed in the text.  Outside subscripts the
scan is in the same state in both, and inside it has found nothing that can be called. -/
theorem hasCallFrom_maskFrom {k : Callee} (h : Callee.hasCallFrom k s = false) :
    Callee.hasCallFrom (if n = 0 then k else .absent) (maskFrom n s) = false := by
  induction s generalizing n k with
  | nil => rfl
  | cons c s ih =>
    obtain ⟨hc, hs⟩ := Bool.or_eq_false_iff.mp h
    have hbracket : ∀ d, d = '[' ∨ d = ']' → ∀ j : Callee, j.step d = .absent := by
      rintro d (rfl | rfl) <;> exact Callee.step_eq_absent (by decide) (by decide)
    cases c using bracketCases with
    | opener =>
      have hopened := ih (n := n + 1) hs
      rw [if_neg n.succ_ne_zero] at hopened
      show Callee.hasCallFrom _ ('[' :: maskFrom (n + 1) s) = false
      rw [Callee.hasCallFrom_cons, hbracket '[' (.inl rfl)]
      exact hopened
    | closer =>
      have hclosed := ih (n := n - 1) hs
      rw [hbracket ']' (.inr rfl), ite_self] at hclosed
      cases n with
      | zero =>
        show Callee.hasCallFrom k (']' :: maskFrom 0 s) = false
        rw [Callee.hasCallFrom_cons, hbracket ']' (.inr rfl)]
        exact hclosed
      | succ n =>
        show Callee.hasCallFrom .absent (placeholder :: ']' :: maskFrom n s) = false
        rw [Callee.hasCallFrom_cons, Callee.hasCallFrom_cons, hbracket ']' (.inr rfl)]
        exact hclosed
    | other c hopen hclose =>
      have hrest := ih (n := n) hs
      rw [maskFrom_cons, nest_of_ne hopen hclose, shown_of_ne hopen hclose]
      cases n with
      | zero =>
        show Callee.hasCallFrom k (c :: maskFrom 0 s) = false
        rw [Callee.hasCallFrom_cons, hc]
        exact hrest
      | succ n => exact hrest

theorem hasCall_mask (h : hasCall s = false) : hasCall (mask s) = false :=
  hasCallFrom_maskFrom (n := 0) h

theorem formRefusal?_mask (h : formRefusal? s = none) : formRefusal? (mask s) = none := by
  obtain ⟨hnumeric, hquoted, hcall, hparen⟩ := formRefusal?_eq_none_iff.mp h
  refine formRefusal?_eq_none_iff.mpr ⟨isNumeric_mask hnumeric, ?_, hasCall_mask hcall, ?_⟩
  · rw [Bool.eq_false_iff, ne_eq, Literal.isQuoted_iff] at hquoted ⊢
    rwa [head?_mask]
  · rw [Bool.eq_false_iff, ne_eq, hasLeadingParen_iff] at hparen ⊢
    rwa [opening_mask]

end Subscript

/-! ### The verdict on the view -/

/-- The verdict on the masked view of a text that has passed the checks of its form and has neither
a hint nor blanks around it. -/
theorem ofText_mask (hform : formRefusal? b = none) (hne : b ≠ []) (htrim : trim b = b)
    (hhint : (splitSuffix b).2 = none) :
    Verdict.ofText (Subscript.mask b) =
      { expression := Subscript.mask b
        base := Subscript.mask b
        letter := none
        masked := some (Subscript.mask b)
        reason := (operatorRefusal? (Subscript.mask b)).getD .lvalue } := by
  have hsplit := Subscript.splitSuffix_mask hhint
  have hstrip : stripSuffix (Subscript.mask b) = Subscript.mask b := by
    rw [stripSuffix, hsplit, Subscript.trim_mask htrim]
  have hmask : (Subscript.mask b).isEmpty = false := by
    cases b with
    | nil => exact absurd rfl hne
    | cons c s =>
      obtain ⟨r, hr⟩ := List.head?_eq_some_iff.mp (Subscript.head?_mask (c :: s))
      rw [hr]
      rfl
  have hjudge : Verdict.judge (Subscript.mask b)
      = (some (Subscript.mask b), (operatorRefusal? (Subscript.mask b)).getD .lvalue) := by
    rw [Verdict.judge_eq, hmask, Subscript.formRefusal?_mask hform, Subscript.mask_mask]
    rfl
  rw [Verdict.ofText, hstrip, hsplit, hjudge]

/-- The masked view of an expression can take its place: it is judged for the same reason, and it is
its own base and its own masked view.  Only a base that ends in another display hint has a view from
which something is taken off. -/
theorem classify_masked (hmasked : (classify (.text e)).masked = some m)
    (hhint : (splitSuffix (classify (.text e)).base).2 = none) :
    (classify (.text m)).reason = (classify (.text e)).reason ∧
      (classify (.text m)).editable = (classify (.text e)).editable ∧
      (classify (.text m)).detail = (classify (.text e)).detail ∧
      (classify (.text m)).base = m ∧ (classify (.text m)).masked = some m := by
  have htrim : trim (stripSuffix e) = stripSuffix e := trim_trim _
  have hparts : classify (.text e) = ⟨e, stripSuffix e, (splitSuffix e).2,
      (Verdict.judge (stripSuffix e)).1, (Verdict.judge (stripSuffix e)).2⟩ := rfl
  rw [hparts] at hmasked hhint ⊢
  generalize hjudge : Verdict.judge (stripSuffix e) = j at hmasked ⊢
  have hjudgment := judgment_judge (stripSuffix e)
  rw [hjudge] at hjudgment
  cases hjudgment with
  | empty h => cases hmasked
  | form h r hr => cases hmasked
  | operators hne hform =>
    cases hmasked
    rw [classify_text, ofText_mask hform hne htrim hhint]
    exact ⟨rfl, rfl, rfl, rfl, rfl⟩

/-- The view of a difference with a subscript that is never closed is refused as the difference
is. -/
theorem classify_masked_difference :
    (classify (.text ['m', '[', 'i', ']', '-', 'k', '[', 'j', ' '])).masked
        = some ['m', '[', '0', ']', '-', 'k', '['] ∧
      (splitSuffix (classify (.text ['m', '[', 'i', ']', '-', 'k', '[', 'j', ' '])).base).2
        = none ∧
      (classify (.text ['m', '[', '0', ']', '-', 'k', '['])).reason
        = (classify (.text ['m', '[', 'i', ']', '-', 'k', '[', 'j', ' '])).reason := by
  have hmasked : (classify (.text ['m', '[', 'i', ']', '-', 'k', '[', 'j', ' '])).masked
      = some ['m', '[', '0', ']', '-', 'k', '['] := by decide
  have hhint : (splitSuffix (classify (.text ['m', '[', 'i', ']', '-', 'k', '[', 'j', ' '])).base).2
      = none := by decide
  exact ⟨hmasked, hhint, (classify_masked hmasked hhint).1⟩

/-- From the view `a,x` of `a,x,d` a hint is taken off. -/
example : (classify (.text ['a', ',', 'x', ',', 'd'])).masked = some ['a', ',', 'x'] ∧
    (classify (.text ['a', ',', 'x'])).base = ['a'] := by decide

end WatchExpr
