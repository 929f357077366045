import WatchExpr.Proofs.Lvalue

/-!
# Calls through members and elements

An access chain is a name with any number of members and elements after it, such as `p->m[i].f`;
what stands in its subscripts is arbitrary but for the balance of the brackets.  At the end of a
chain no subscript is open (`AccessChain.depth_eq_zero`), there is no operator outside its
subscripts (`AccessChain.operatorFree_mask`), and it ends in a name or in the bracket of an element
(`AccessChain.endsInName_iff`).

The check for calls knows a callee by the name that it ends in.  A call through a chain that ends in
a name is refused whatever comes after its parenthesis; after an element the parenthesis is not seen
as that of a call, and does no more than divide the expression.  So the exact condition under which
a call is editable is that its callee is an element and that neither the chain nor what comes after
the parenthesis holds anything that is refused by itself (`editable_call_iff`); `a[0](x)` is
editable.
-/

namespace WatchExpr

variable {f t w : List Char}

/-- A name, and any number of members and elements after it. -/
inductive AccessChain : List Char → Prop where
  | name (m : List Char) (hm : isName m = true) : AccessChain m
  | select (f sel m : List Char) (hf : AccessChain f) (hsel : sel ∈ selectors)
      (hm : isName m = true) : AccessChain (f ++ (sel ++ m))
  | subscript (f c : List Char) (hf : AccessChain f) (hc : Balanced c) :
      AccessChain (f ++ '[' :: (c ++ [']']))

namespace AccessChain

/-! ### What a chain is like outside its subscripts -/

/-- A chain begins as the name it is built on. -/
theorem exists_opening (hf : AccessChain f) : ∃ d, opening f = some d ∧ isWord d = true := by
  induction hf with
  | name m hm =>
    cases m with
    | nil => cases hm
    | cons d m =>
      have hd := isWord_of_isName hm d (List.mem_cons_self ..)
      exact ⟨d, opening_cons (isBlank_of_isWord hd) m, hd⟩
  | select f sel m _ _ _ ih | subscript f c _ _ ih =>
    obtain ⟨d, hd, hword⟩ := ih
    exact ⟨d, by rw [opening_append, hd]; rfl, hword⟩

theorem depth_eq_zero (hf : AccessChain f) : Subscript.depth f = 0 := by
  induction hf with
  | name m hm => exact Subscript.depthFrom_of_bracketFree (bracketFree_of_isName hm) 0
  | select f sel m _ hsel hm ih =>
    have hplain : BracketFree (sel ++ m) :=
      bracketFree_append.mpr ⟨bracketFree_of_mem_selectors hsel, bracketFree_of_isName hm⟩
    rw [Subscript.depth, Subscript.depthFrom_append, ← Subscript.depth, ih]
    exact Subscript.depthFrom_of_bracketFree hplain 0
  | subscript f c _ hc ih =>
    rw [Subscript.depth, Subscript.depthFrom_append, ← Subscript.depth, ih,
      Subscript.depthFrom_cons, Subscript.depthFrom_append, Subscript.depthFrom_of_balanced hc]
    rfl

theorem operatorFree_mask (hf : AccessChain f) : OperatorFree (Subscript.mask f) := by
  induction hf with
  | name m hm =>
    rw [Subscript.mask_of_bracketFree (bracketFree_of_isName hm)]
    exact operatorFree_of_isName hm
  | select f sel m hf hsel hm ih =>
    have hplain : BracketFree (sel ++ m) :=
      bracketFree_append.mpr ⟨bracketFree_of_mem_selectors hsel, bracketFree_of_isName hm⟩
    rw [Subscript.mask_append_of_depth hf.depth_eq_zero, Subscript.mask_of_bracketFree hplain]
    exact (operatorFree_append_selector_iff hsel).mpr ⟨ih, operatorFree_of_isName hm⟩
  | subscript f c _ hc ih => exact operatorFree_mask_append_subscript ih hc

/-! ### How a chain ends -/

/-- A chain ends in a name unless it ends in the bracket of an element. -/
theorem endsInName_iff (hf : AccessChain f) : EndsInName f ↔ f.getLast? ≠ some ']' := by
  constructor
  · rintro ⟨t, n, hn, rfl⟩ hlast
    rw [List.getLast?_append, Option.or_eq_some_iff, List.getLast?_eq_none_iff] at hlast
    rcases hlast with hlast | ⟨rfl, -⟩
    · exact notMem_of_isName (by decide) hn (List.mem_of_getLast? hlast)
    · cases hn
  · intro hlast
    cases hf with
    | name _ hm => exact ⟨[], f, hm, rfl⟩
    | select f sel m _ _ hm => exact ⟨f ++ sel, m, hm, by simp⟩
    | subscript f c _ _ =>
      rw [List.append_cons, ← List.append_assoc] at hlast
      exact absurd List.getLast?_concat hlast

/-- The parenthesis after a name makes a call. -/
theorem hasCall_of_endsInName (hf : EndsInName f) (hw : isBlankText w = true) (t : List Char) :
    hasCall (f ++ (w ++ '(' :: t)) = true := by
  obtain ⟨s, n, hn, rfl⟩ := hf
  exact hasCall_iff.mpr ⟨s, n, w, t, hn, hw, by simp⟩

/-- The parenthesis after an element makes no call. -/
theorem hasCall_of_getLast? (hf : f.getLast? = some ']') (hw : isBlankText w = true)
    (t : List Char) : hasCall (f ++ (w ++ '(' :: t)) = (hasCall f || hasCall t) := by
  obtain ⟨s, rfl⟩ := List.getLast?_eq_some_iff.mp hf
  have hbracket : ∀ r, hasCall (s ++ ']' :: r) = (hasCall s || hasCall r) :=
    hasCall_append_cons (by decide) (by decide) (by decide) s
  rw [List.append_assoc, List.singleton_append, hbracket, hbracket, hasCall_blanks_append hw,
    hasCall_cons_of_not_isWord (by decide)]
  simp [hasCall]

end AccessChain

/-! ### The verdict on a call -/

/-- A parenthesis after a chain divides the operators of the masked view. -/
theorem operatorFree_mask_call_iff (hf : AccessChain f) (hw : isBlankText w = true) :
    OperatorFree (Subscript.mask (f ++ (w ++ '(' :: t))) ↔ OperatorFree (Subscript.mask t) := by
  have hparen : BracketFree ['('] := by decide
  rw [Subscript.mask_append_of_depth hf.depth_eq_zero,
    Subscript.mask_bracketFree_append (bracketFree_of_isBlankText hw), Subscript.mask_cons hparen,
    ← List.append_assoc, operatorFree_append_cons_iff separator_paren,
    operatorFree_append_blanks_iff hw]
  exact and_iff_right hf.operatorFree_mask

/-- A call through an access chain is refused unless the callee is an element; then it is refused
only for a call in the chain, and for a call or an operator after the parenthesis. -/
theorem editable_call_iff (hf : AccessChain f) (hw : isBlankText w = true) :
    (classify (.text (f ++ (w ++ '(' :: t)))).editable = true ↔
      f.getLast? = some ']' ∧ ¬ HoldsCall f ∧ ¬ HoldsCall t ∧ OperatorFree (Subscript.mask t) := by
  rw [editable_iff_admissible (x := '(') (by simp) (by decide) (by decide) (by decide)]
  by_cases hlast : f.getLast? = some ']'
  · have hcall := AccessChain.hasCall_of_getLast? hlast hw t
    have hoperator := operatorFree_mask_call_iff (t := t) hf hw
    rw [← hasCall_iff, ← hasCall_iff, Bool.not_eq_true, Bool.not_eq_true]
    constructor
    · rintro ⟨-, hfree, hmask⟩
      rw [hcall, Bool.or_eq_false_iff] at hfree
      exact ⟨hlast, hfree.1, hfree.2, hoperator.mp hmask⟩
    · rintro ⟨-, hcallf, hcallt, hmask⟩
      refine ⟨fun c hc => ?_, by rw [hcall, hcallf, hcallt]; rfl, hoperator.mpr hmask⟩
      obtain ⟨d, hd, hword⟩ := hf.exists_opening
      rw [opening_append, hd] at hc
      exact notMem_refusedOpenings_of_isWord (Option.some.inj hc ▸ hword)
  · refine iff_of_false (fun h => ?_) fun h => hlast h.1
    have hfree := h.callFree
    rw [AccessChain.hasCall_of_endsInName (hf.endsInName_iff.mpr hlast) hw] at hfree
    cases hfree

/-- A call through an element of an array is editable: `a[0](x)`. -/
theorem call_of_element_not_refused :
    ¬ ∀ f w t : List Char, AccessChain f → isBlankText w = true →
      (classify (.text (f ++ (w ++ '(' :: t)))).editable = false := by
  intro h
  have helement : AccessChain ['a', '[', '0', ']'] :=
    .subscript ['a'] ['0'] (.name ['a'] (by decide)) (by decide)
  exact absurd (h ['a', '[', '0', ']'] [] ['x', ')'] helement (by decide)) (by decide)

/-- An element of a member as the callee, with a blank before the parenthesis: `p->m[i-1] (x)`. -/
theorem editable_call_iff_element :
    AccessChain ['p', '-', '>', 'm', '[', 'i', '-', '1', ']'] ∧ isBlankText [' '] = true ∧
      (classify (.text (['p', '-', '>', 'm', '[', 'i', '-', '1', ']'] ++
        ([' '] ++ '(' :: ['x', ')'])))).editable = true := by
  have hmember : AccessChain (['p'] ++ (['-', '>'] ++ ['m'])) :=
    .select _ _ _ (.name ['p'] (by decide)) (by decide) (by decide)
  have hchain : AccessChain ['p', '-', '>', 'm', '[', 'i', '-', '1', ']'] :=
    .subscript _ ['i', '-', '1'] hmember (by decide)
  have hblank : isBlankText [' '] = true := by decide
  have hargument : Admissible ['x', ')'] := laterReason_eq_lvalue_iff.mp (by decide)
  refine ⟨hchain, hblank, (editable_call_iff hchain hblank).mpr
    ⟨by decide, fun h => ?_, fun h => ?_, hargument.operatorFree⟩⟩
  · exact absurd (hasCall_iff.mpr h) (by decide)
  · exact absurd (hasCall_iff.mpr h) (by decide)

end WatchExpr
