import WatchExpr.Proofs.Binary

/-!
# Operations that no check finds

An operation of two operands computes a value, but two kinds of them are not found.  A sign `-`, `*`
or `&` is seen only with a word character after it, and not before a grouping or a dereference; and
the relations `<` and `>` are looked for nowhere.  There the sign does no more than divide the
expression: what is found in the whole is what is found on one of its two sides
(`operatorFree_append_divider_iff`, `admissible_append_divider_iff`).

So the exact condition under which such an expression is refused is that one of its sides is
(`editable_sign_iff`, `editable_relation_iff`); `a-(b)` and `a<b` are editable.
-/

namespace WatchExpr

variable {a b s t u w : List Char} {c d sign : Char}

/-! ### Signs that divide a text -/

/-- The signs of the two relations that the table does not have. -/
def relationSigns : List Char := ['<', '>']

/-- By itself the sign is no operator of the table, none of the marks, and no part of an operand, a
call or a subscript. -/
structure Divider (c : Char) : Prop where
  symbol_ne : ∀ op : Operator, op.symbol ≠ [c]
  notMem_marks : c ∉ computingMarks
  isOperandEnd : isOperandEnd c = false
  isBlank : isBlank c = false
  ne_paren : c ≠ '('
  bracketFree : BracketFree [c]

theorem divider_of_mem (hc : c ∈ jointSigns ++ relationSigns) : Divider c := by
  simp only [jointSigns, relationSigns, List.cons_append, List.nil_append, List.mem_cons,
    List.not_mem_nil, or_false] at hc
  rcases hc with rfl | rfl | rfl | rfl | rfl <;>
    exact ⟨fun op => by cases op <;> decide, by decide, by decide, by decide, by decide, by decide⟩

theorem Divider.isWord (hc : Divider c) : isWord c = false :=
  isWord_of_isOperandEnd_eq_false hc.isOperandEnd

theorem notMem_symbol_of_isOperandEnd (hc : isOperandEnd c = true) (op : Operator) :
    c ∉ op.symbol :=
  notMem_symbol (notMem_of_any_eq_false (by decide) hc) op

theorem notMem_symbol_of_isBlank (hc : isBlank c = true) (op : Operator) : c ∉ op.symbol :=
  notMem_symbol (notMem_operatorChars_of_isBlank hc) op

/-- What the search for operators finds in the whole it finds on one side of the divider, when the
neighbours of the divider, blanks aside, make no operator with it and it joins no operands. -/
theorem operatorFree_append_divider_iff (hc : Divider c)
    (hs : ∀ d, closing s = some d → ∀ op : Operator, d ∉ op.symbol)
    (ht : ∀ d, opening t = some d → ∀ op : Operator, d ∉ op.symbol)
    (hjoint : c ∈ jointSigns → ∀ d, opening t = some d → isOperandEnd d = false) :
    OperatorFree (s ++ c :: t) ↔ OperatorFree s ∧ OperatorFree t := by
  refine operatorFree_iff_and (fun op => ?_) (fun sign hsign => ?_) fun d hd => ?_
  · refine Operator.occursFrom_append_lone (hc.symbol_ne op) (fun d hd => ?_) (fun d hd => ?_) false
    · rcases isBlank_or_closing hd with hblank | hd
      · exact notMem_symbol_of_isBlank hblank op
      · exact hs d hd op
    · rcases isBlank_or_opening hd with hblank | hd
      · exact notMem_symbol_of_isBlank hblank op
      · exact ht d hd op
  · by_cases hsame : c = sign
    · subst hsame
      exact Joint.joinsFrom_append_sign hc.isOperandEnd hc.isBlank (hjoint hsign) .nothing s
    · exact Joint.joinsFrom_append_cons hc.isOperandEnd hc.isBlank hsame .nothing s t
  · have hne : d ≠ c := ne_of_mem_of_not_mem hd hc.notMem_marks
    simp [hne]

/-! ### Dividers outside subscripts -/

theorem mask_append_divider (hc : Divider c) (hdepth : Subscript.depth a = 0)
    (hu : isBlankText u = true) (hw : isBlankText w = true) (b : List Char) :
    Subscript.mask (a ++ (u ++ c :: (w ++ b)))
      = Subscript.mask a ++ (u ++ c :: (w ++ Subscript.mask b)) := by
  rw [Subscript.mask_append, hdepth, ← Subscript.mask,
    Subscript.mask_bracketFree_append (bracketFree_of_isBlankText hu),
    Subscript.mask_cons hc.bracketFree,
    Subscript.mask_bracketFree_append (bracketFree_of_isBlankText hw)]

/-- The operators of the masked view are those of its two sides. -/
theorem operatorFree_mask_append_divider_iff (hsign : Divider sign)
    (hdepth : Subscript.depth a = 0) (hclosing : closing a = some c) (hc : isOperandEnd c = true)
    (hopening : opening b = some d) (hd : ∀ op : Operator, d ∉ op.symbol)
    (hjoint : sign ∈ jointSigns → isOperandEnd d = false) (hu : isBlankText u = true)
    (hw : isBlankText w = true) :
    OperatorFree (Subscript.mask (a ++ (u ++ sign :: (w ++ b)))) ↔
      OperatorFree (Subscript.mask a) ∧ OperatorFree (Subscript.mask b) := by
  -- Blanks aside, the divider has the end of an operand before it and `d` after it.
  have hleft : closing (Subscript.mask a ++ u) = some c := by
    obtain ⟨s, v, hv, hmask⟩ := exists_mask_eq_of_closing hdepth hclosing hc
    have hblank := (closing_eq_some_iff.mp hclosing).1
    exact closing_eq_some_iff.mpr
      ⟨hblank, s, v ++ u, isBlankText_append.mpr ⟨hv, hu⟩, by rw [hmask]; simp⟩
  have hright : opening (w ++ Subscript.mask b) = some d := by
    rw [opening_blanks_append hw, Subscript.opening_mask, hopening]
  rw [mask_append_divider hsign hdepth hu hw, ← List.append_assoc,
    operatorFree_append_divider_iff hsign ?_ ?_ ?_, operatorFree_append_blanks_iff hu,
    operatorFree_blanks_append_iff hw]
  · intro x hx
    rw [hleft] at hx
    exact Option.some.inj hx ▸ notMem_symbol_of_isOperandEnd hc
  · intro x hx
    rw [hright] at hx
    exact Option.some.inj hx ▸ hd
  · intro hmem x hx
    rw [hright] at hx
    exact Option.some.inj hx ▸ hjoint hmem

/-- The checks on an expression with a divider in it are the checks on its two sides, but for how
the right side begins. -/
theorem admissible_append_divider_iff (hsign : Divider sign) (hdepth : Subscript.depth a = 0)
    (hclosing : closing a = some c) (hc : isOperandEnd c = true) (hopening : opening b = some d)
    (hd : ∀ op : Operator, d ∉ op.symbol) (hjoint : sign ∈ jointSigns → isOperandEnd d = false)
    (hu : isBlankText u = true) (hw : isBlankText w = true) :
    Admissible (a ++ (u ++ sign :: (w ++ b))) ↔
      Admissible a ∧ hasCall b = false ∧ OperatorFree (Subscript.mask b) := by
  have hfront : opening (a ++ (u ++ sign :: (w ++ b))) = opening a :=
    opening_append_of_not_blank (isBlankText_of_closing hclosing)
  have hcalls : hasCall (a ++ (u ++ sign :: (w ++ b))) = (hasCall a || hasCall b) := by
    have hparen : '(' ∉ u := notMem_of_isBlankText (by decide) hu
    rw [← List.append_assoc, hasCall_append_cons hsign.isWord hsign.isBlank hsign.ne_paren,
      hasCall_append_of_notMem hparen, hasCall_blanks_append hw]
  have hoperator :=
    operatorFree_mask_append_divider_iff hsign hdepth hclosing hc hopening hd hjoint hu hw
  constructor
  · rintro ⟨hstart, hcall, hfree⟩
    rw [hfront] at hstart
    rw [hcalls, Bool.or_eq_false_iff] at hcall
    rw [hoperator] at hfree
    exact ⟨⟨hstart, hcall.1, hfree.1⟩, hcall.2, hfree.2⟩
  · rintro ⟨ha, hcall, hfree⟩
    refine ⟨by rw [hfront]; exact ha.opening, ?_, hoperator.mpr ⟨ha.operatorFree, hfree⟩⟩
    rw [hcalls, ha.callFree, hcall]
    rfl

/-! ### Signs between two operands -/

/-- Whether `c` can begin an operand: a word character, the parenthesis of a grouping, or the star
of a dereference. -/
def beginsOperand (c : Char) : Bool := isWord c || c == '(' || c == '*'

/-- A sign between an operand and a word character joins them. -/
theorem not_admissible_of_sign (hsign : sign ∈ jointSigns) (hdepth : Subscript.depth a = 0)
    (hclosing : closing a = some c) (hc : isOperandEnd c = true) (hopening : opening b = some d)
    (hd : isWord d = true) (hu : isBlankText u = true) (hw : isBlankText w = true) :
    ¬ Admissible (a ++ (u ++ sign :: (w ++ b))) := by
  intro h
  have hfree := h.operatorFree
  obtain ⟨s, v, hv, hleft⟩ := exists_mask_eq_of_closing hdepth hclosing hc
  rw [← Subscript.opening_mask] at hopening
  obtain ⟨-, x, t, hx, hright⟩ := opening_eq_some_iff.mp hopening
  have hseam : Subscript.mask a ++ (u ++ sign :: (w ++ Subscript.mask b))
      = s ++ c :: ((v ++ u) ++ ([sign] ++ ((w ++ x) ++ d :: t))) := by
    rw [hleft, hright]
    simp
  have hsymbol : [sign] ∈ binarySymbols := by
    have hsubset : jointSigns.map (fun c => [c]) ⊆ binarySymbols := by decide
    exact hsubset (List.mem_map_of_mem hsign)
  have hdivider := divider_of_mem (List.mem_append_left relationSigns hsign)
  rw [mask_append_divider hdivider hdepth hu hw, hseam] at hfree
  exact not_operatorFree_of_operands hc hd (isBlankText_append.mpr ⟨hv, hu⟩)
    (isBlankText_append.mpr ⟨hw, hx⟩) hsymbol s t hfree

/-- A sign between two operands is refused where a word character comes after it; before a grouping
or a dereference it is refused only for what stands on its two sides. -/
theorem editable_sign_iff (hdepth : Subscript.depth a = 0) (hclosing : closing a = some c)
    (hc : isOperandEnd c = true) (hsign : sign ∈ jointSigns) (hopening : opening b = some d)
    (hd : beginsOperand d = true) (hu : isBlankText u = true) (hw : isBlankText w = true) :
    (classify (.text (a ++ (u ++ sign :: (w ++ b))))).editable = true ↔
      isWord d = false ∧ Admissible a ∧ hasCall b = false ∧ OperatorFree (Subscript.mask b) := by
  by_cases hword : isWord d = true
  · have hrefused := not_editable_of_not_admissible
      (not_admissible_of_sign hsign hdepth hclosing hc hopening hword hu hw)
    rw [hrefused, hword]
    simp
  · have hplain :
        isOperandEnd d = false ∧ d ∉ ['-', '.', ','] ∧ ∀ op : Operator, d ∉ op.symbol := by
      simp only [beginsOperand, hword, Bool.false_or, Bool.or_eq_true, beq_iff_eq] at hd
      rcases hd with rfl | rfl <;>
        exact ⟨by decide, by decide, fun op => by cases op <;> decide⟩
    obtain ⟨hend, hnumber, hsymbol⟩ := hplain
    rw [Bool.not_eq_true] at hword
    have hmem : d ∈ a ++ (u ++ sign :: (w ++ b)) := by
      obtain ⟨-, x, t, -, rfl⟩ := opening_eq_some_iff.mp hopening
      simp
    rw [editable_iff_admissible hmem hword (opening_eq_some_iff.mp hopening).1 hnumber,
      admissible_append_divider_iff (divider_of_mem (List.mem_append_left _ hsign)) hdepth hclosing
        hc hopening hsymbol (fun _ => hend) hu hw, hword]
    simp

/-- A difference is editable with a grouping as its right operand: `a-(b)`. -/
theorem sign_before_grouping_not_refused :
    ¬ ∀ (a b u w : List Char) (c d sign : Char), Subscript.depth a = 0 → closing a = some c →
      isOperandEnd c = true → sign ∈ jointSigns → opening b = some d → beginsOperand d = true →
      isBlankText u = true → isBlankText w = true →
      (classify (.text (a ++ (u ++ sign :: (w ++ b))))).editable = false := by
  intro h
  have hrefused := h ['a'] ['(', 'b', ')'] [] [] 'a' '(' '-' (by decide) (by decide) (by decide)
    (by decide) (by decide) (by decide) (by decide) (by decide)
  exact absurd hrefused (by decide)

/-- The product of an element and what a pointer refers to: `m[i] * *p`. -/
theorem editable_sign_iff_dereference :
    Subscript.depth ['m', '[', 'i', ']'] = 0 ∧ closing ['m', '[', 'i', ']'] = some ']' ∧
      opening ['*', 'p'] = some '*' ∧ beginsOperand '*' = true ∧
      (classify (.text (['m', '[', 'i', ']'] ++ ([' '] ++ '*' :: ([' '] ++ ['*', 'p']))))).editable
        = true := by
  have hdepth : Subscript.depth ['m', '[', 'i', ']'] = 0 := by decide
  have hclosing : closing ['m', '[', 'i', ']'] = some ']' := by decide
  have hopening : opening ['*', 'p'] = some '*' := by decide
  have hbegins : beginsOperand '*' = true := by decide
  have hleft : Admissible ['m', '[', 'i', ']'] := laterReason_eq_lvalue_iff.mp (by decide)
  have hright : Admissible ['*', 'p'] := laterReason_eq_lvalue_iff.mp (by decide)
  exact ⟨hdepth, hclosing, hopening, hbegins, (editable_sign_iff hdepth hclosing (by decide)
    (by decide) hopening hbegins (by decide) (by decide)).mpr
      ⟨by decide, hleft, hright.callFree, hright.operatorFree⟩⟩

/-! ### Relations -/

/-- A relation between two operands is refused only for what stands on its two sides. -/
theorem editable_relation_iff (hdepth : Subscript.depth a = 0) (hclosing : closing a = some c)
    (hc : isOperandEnd c = true) (hsign : sign ∈ relationSigns) (hopening : opening b = some d)
    (hd : isWord d = true) (hu : isBlankText u = true) (hw : isBlankText w = true) :
    (classify (.text (a ++ (u ++ sign :: (w ++ b))))).editable = true ↔
      Admissible a ∧ Admissible b := by
  have hdivider := divider_of_mem (List.mem_append_right jointSigns hsign)
  have hplain : sign ∉ jointSigns ∧ sign ∉ ['-', '.', ','] := by
    simp only [relationSigns, List.mem_cons, List.not_mem_nil, or_false] at hsign
    rcases hsign with rfl | rfl <;> decide
  rw [editable_iff_admissible (x := sign) (by simp) hdivider.isWord hdivider.isBlank hplain.2,
    admissible_append_divider_iff hdivider hdepth hclosing hc hopening
      (notMem_symbol_of_isOperandEnd (isOperandEnd_of_isWord hd)) (fun h => absurd h hplain.1)
      hu hw]
  refine and_congr_right fun _ => ⟨fun ⟨hcall, hfree⟩ => ⟨fun x hx => ?_, hcall, hfree⟩,
    fun h => ⟨h.callFree, h.operatorFree⟩⟩
  rw [hopening] at hx
  exact Option.some.inj hx ▸ notMem_refusedOpenings_of_isWord hd

/-- A comparison of two names is editable: `a<b`. -/
theorem relation_not_refused :
    ¬ ∀ (a b u w : List Char) (c d : Char), Subscript.depth a = 0 → closing a = some c →
      isOperandEnd c = true → opening b = some d → isWord d = true →
      isBlankText u = true → isBlankText w = true →
      (classify (.text (a ++ (u ++ '<' :: (w ++ b))))).editable = false ∧
        (classify (.text (a ++ (u ++ '>' :: (w ++ b))))).editable = false := by
  intro h
  obtain ⟨hless, -⟩ := h ['a'] ['b'] [] [] 'a' 'b' (by decide) (by decide) (by decide) (by decide)
    (by decide) (by decide) (by decide)
  exact absurd hless (by decide)

/-- An element compared with a member: `m[i] > p->n`. -/
theorem editable_relation_iff_member :
    Subscript.depth ['m', '[', 'i', ']'] = 0 ∧ closing ['m', '[', 'i', ']'] = some ']' ∧
      opening ['p', '-', '>', 'n'] = some 'p' ∧ isWord 'p' = true ∧
      (classify (.text (['m', '[', 'i', ']'] ++ ([' '] ++ '>' ::
        ([' '] ++ ['p', '-', '>', 'n']))))).editable = true := by
  have hdepth : Subscript.depth ['m', '[', 'i', ']'] = 0 := by decide
  have hclosing : closing ['m', '[', 'i', ']'] = some ']' := by decide
  have hopening : opening ['p', '-', '>', 'n'] = some 'p' := by decide
  have hword : isWord 'p' = true := by decide
  have hleft : Admissible ['m', '[', 'i', ']'] := laterReason_eq_lvalue_iff.mp (by decide)
  have hright : Admissible ['p', '-', '>', 'n'] := laterReason_eq_lvalue_iff.mp (by decide)
  exact ⟨hdepth, hclosing, hopening, hword, (editable_relation_iff hdepth hclosing (by decide)
    (by decide) hopening hword (by decide) (by decide)).mpr ⟨hleft, hright⟩⟩

end WatchExpr
