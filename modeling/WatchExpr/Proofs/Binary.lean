import WatchExpr.Proofs.Admissible

/-!
# Operations on two operands

The symbols of the table and the signs `-`, `*`, `&`, `|` make an operation of two operands wherever
an operand ends before them and a word character comes after them, blanks aside
(`not_operatorFree_of_operands`).  Outside subscripts the masked view keeps the seam, so that no
expression with such an operation is editable (`not_editable_of_operands`).
-/

namespace WatchExpr

variable {a b s t u v w : List Char} {c d : Char} {symbol : List Char}

/-- The symbols that make an operation of two operands. -/
def binarySymbols : List (List Char) :=
  Operator.all.map Operator.symbol ++ [['-'], ['*'], ['&'], ['|']]

theorem binarySymbols_cases (h : symbol ∈ binarySymbols) :
    (∃ op : Operator, op.symbol = symbol) ∨ (∃ sign ∈ jointSigns, symbol = [sign]) ∨
      symbol = ['|'] := by
  rcases List.mem_append.mp h with h | h
  · obtain ⟨op, -, hop⟩ := List.mem_map.mp h
    exact .inl ⟨op, hop⟩
  · simp only [List.mem_cons, List.not_mem_nil, or_false] at h
    rcases h with rfl | rfl | rfl | rfl
    · exact .inr (.inl ⟨'-', by decide, rfl⟩)
    · exact .inr (.inl ⟨'*', by decide, rfl⟩)
    · exact .inr (.inl ⟨'&', by decide, rfl⟩)
    · exact .inr (.inr rfl)

theorem bracketFree_of_mem_binarySymbols (h : symbol ∈ binarySymbols) : BracketFree symbol := by
  have hall : ∀ symbol ∈ binarySymbols, BracketFree symbol := by decide
  exact hall symbol h

/-- An operation of two operands is found wherever it stands. -/
theorem not_operatorFree_of_operands (hc : isOperandEnd c = true) (hd : isWord d = true)
    (hu : isBlankText u = true) (hv : isBlankText v = true) (hsymbol : symbol ∈ binarySymbols)
    (s t : List Char) : ¬ OperatorFree (s ++ c :: (u ++ (symbol ++ (v ++ d :: t)))) := by
  intro h
  rcases binarySymbols_cases hsymbol with ⟨op, rfl⟩ | ⟨sign, hsign, rfl⟩ | rfl
  · -- The character before the symbol is an operand's last one or a blank, and no `-`.
    have hlast : (s ++ c :: u).getLast? ≠ some '-' := by
      intro hlast
      rw [List.getLast?_append, Option.or_eq_some_iff] at hlast
      rcases hlast with hlast | ⟨hnone, -⟩
      · rcases List.mem_cons.mp (List.mem_of_getLast? hlast) with rfl | hmem
        · exact absurd hc (by decide)
        · exact notMem_of_isBlankText (by decide) hu hmem
      · simp at hnone
    have hoccurs : op.occursIn ((s ++ c :: u) ++ (op.symbol ++ (v ++ d :: t))) = true :=
      Operator.occursIn_append_symbol _ _ fun _ => hlast
    rw [List.append_assoc, List.cons_append, h.occurs op] at hoccurs
    cases hoccurs
  · have hjoins := h.joins sign hsign
    have hsigns : jointSigns.any (fun x => isOperandEnd x || isBlank x) = false := by decide
    have hplain : isOperandEnd sign = false ∧ isBlank sign = false := by
      rw [← Bool.or_eq_false_iff, Bool.eq_false_iff]
      exact fun h => notMem_of_any_eq_false hsigns h hsign
    obtain ⟨hend, hblank⟩ := hplain
    rw [List.singleton_append, joins_of_operands hc hd hu hv hend hblank] at hjoins
    cases hjoins
  · exact h.marks '|' (by decide) (by simp)

/-- The masked view keeps the end of an operand that is outside subscripts. -/
theorem exists_mask_eq_of_closing (hdepth : Subscript.depth a = 0) (hclosing : closing a = some c)
    (hc : isOperandEnd c = true) :
    ∃ s u, isBlankText u = true ∧ Subscript.mask a = s ++ c :: u := by
  obtain ⟨-, t, u, hu, rfl⟩ := closing_eq_some_iff.mp hclosing
  have hfree := bracketFree_of_isBlankText hu
  have hopen : c ≠ '[' := by
    rintro rfl
    exact absurd hc (by decide)
  have hnest : Subscript.nest (Subscript.depth t) c = 0 := by
    rwa [Subscript.depth, Subscript.depthFrom_append, Subscript.depthFrom_cons,
      Subscript.depthFrom_of_bracketFree hfree] at hdepth
  obtain ⟨r, hshown⟩ := Subscript.exists_shown_eq_append hopen hnest
  refine ⟨Subscript.mask t ++ r, u, hu, ?_⟩
  rw [Subscript.mask_append, Subscript.maskFrom_cons, hnest, hshown,
    Subscript.maskFrom_of_bracketFree hfree]
  simp

/-- An expression with an operation of two operands outside subscripts is not editable, whatever
stands around the two operands. -/
theorem not_editable_of_operands (hdepth : Subscript.depth a = 0) (hclosing : closing a = some c)
    (hc : isOperandEnd c = true) (hopening : opening b = some d) (hd : isWord d = true)
    (hsymbol : symbol ∈ binarySymbols) (hu : isBlankText u = true) (hw : isBlankText w = true) :
    (classify (.text (a ++ (u ++ (symbol ++ (w ++ b)))))).editable = false := by
  refine not_editable_of_not_admissible fun h => ?_
  obtain ⟨s, v, hv, hmask⟩ := exists_mask_eq_of_closing hdepth hclosing hc
  obtain ⟨-, x, t, hx, rfl⟩ := opening_eq_some_iff.mp hopening
  have hfree : BracketFree [d] := bracketFree_of_forall_isWord (by simpa using hd)
  -- Nothing from the end of the one operand to the start of the other is in a subscript.
  have hseam : Subscript.mask (a ++ (u ++ (symbol ++ (w ++ (x ++ d :: t)))))
      = s ++ c :: ((v ++ u) ++ (symbol ++ ((w ++ x) ++ d :: Subscript.mask t))) := by
    rw [Subscript.mask_append, hdepth, hmask, ← Subscript.mask,
      Subscript.mask_bracketFree_append (bracketFree_of_isBlankText hu),
      Subscript.mask_bracketFree_append (bracketFree_of_mem_binarySymbols hsymbol),
      Subscript.mask_bracketFree_append (bracketFree_of_isBlankText hw),
      Subscript.mask_bracketFree_append (bracketFree_of_isBlankText hx), Subscript.mask_cons hfree]
    simp
  have hoperator := h.operatorFree
  rw [hseam] at hoperator
  exact not_operatorFree_of_operands hc hd (isBlankText_append.mpr ⟨hv, hu⟩)
    (isBlankText_append.mpr ⟨hw, hx⟩) hsymbol s _ hoperator

/-- A shift after a subscript, whose right operand opens a subscript and never closes it. -/
theorem not_editable_of_operands_shift :
    Subscript.depth ['m', '[', 'i', ']', ']'] = 0 ∧
      closing ['m', '[', 'i', ']', ']'] = some ']' ∧ opening [' ', 'k', '['] = some 'k' ∧
      ['>', '>'] ∈ binarySymbols ∧
      (classify (.text (['m', '[', 'i', ']', ']'] ++ ([' '] ++ (['>', '>'] ++
        ([] ++ [' ', 'k', '['])))))).editable = false := by
  have hdepth : Subscript.depth ['m', '[', 'i', ']', ']'] = 0 := by decide
  have hclosing : closing ['m', '[', 'i', ']', ']'] = some ']' := by decide
  have hopening : opening [' ', 'k', '['] = some 'k' := by decide
  have hsymbol : ['>', '>'] ∈ binarySymbols := by decide
  exact ⟨hdepth, hclosing, hopening, hsymbol, not_editable_of_operands hdepth hclosing
    (by decide) hopening (by decide) hsymbol (by decide) (by decide)⟩

end WatchExpr
