import WatchExpr.Refusal
import WatchExpr.Proofs.Operand

/-!
# Texts without operators

`OperatorFree s` says what it takes to pass the search for operators: no operator of the table
occurs in `s`, none of the signs `-`, `*`, `&` joins two operands in it, and it has none of the
marks `|`, `~`, `!`.  The search refuses nothing exactly then (`operatorRefusal?_eq_none_iff_free`).
Its result depends on these three things alone (`operatorRefusal?_congr`), because an exclamation
mark that is no negation is an occurrence of `!=`.

A separator such as `.`, `,` or `[` divides the question (`operatorFree_append_cons_iff`), and so
does an arrow (`operatorFree_append_arrow_iff`); blanks at either end have no part in it.
-/

namespace WatchExpr

variable {c : Char} {s t u : List Char}

/-! ### What is looked for -/

/-- The signs that stand before one operand or between two. -/
def jointSigns : List Char := ['-', '*', '&']

/-- The marks that make a computed value wherever they stand. -/
def computingMarks : List Char := ['|', '~', '!']

theorem mem_operatorChars_of_mem_jointSigns (h : c ∈ jointSigns) : c ∈ operatorChars := by
  have hsubset : jointSigns ⊆ operatorChars := by decide
  exact hsubset h

theorem mem_operatorChars_of_mem_computingMarks (h : c ∈ computingMarks) : c ∈ operatorChars := by
  have hsubset : computingMarks ⊆ operatorChars := by decide
  exact hsubset h

/-- The text has no operator that shows that it computes a value. -/
structure OperatorFree (s : List Char) : Prop where
  /-- No operator of the table occurs in it. -/
  occurs : ∀ op : Operator, op.occursIn s = false
  /-- No sign joins two operands in it. -/
  joins : ∀ sign ∈ jointSigns, WatchExpr.joins sign s = false
  /-- It has none of the marks. -/
  marks : ∀ c ∈ computingMarks, c ∉ s

/-- The search for operators without what makes no difference: any exclamation mark stands for a
negation, and the minus sign is looked for as the other signs are. -/
theorem operatorRefusal?_eq (s : List Char) :
    operatorRefusal? s =
      if (Operator.find? s).isSome then some .binaryOperator
      else if WatchExpr.joins '-' s then some .subtraction
      else if WatchExpr.joins '*' s then some .multiplication
      else if WatchExpr.joins '&' s then some .bitwiseAnd
      else if s.contains '|' then some .bitwiseOr
      else if s.contains '~' then some .bitwiseNot
      else if s.contains '!' then some .logicalNot
      else none := by
  unfold operatorRefusal?
  rw [subtracts_eq_joins]
  by_cases hfind : (Operator.find? s).isSome = true
  · rw [if_pos hfind, if_pos hfind]
  · have hnone : Operator.findIn? Operator.all s = none := by simpa [Operator.find?] using hfind
    have hunequal := Operator.findIn?_eq_none_iff.mp hnone .unequal (Operator.mem_all _)
    rw [hasNegation_eq_contains hunequal]

/-- What the search finds depends only on the operators that occur, the signs that join and the
marks that are there. -/
theorem operatorRefusal?_congr (hoccurs : ∀ op : Operator, op.occursIn s = op.occursIn t)
    (hjoins : ∀ sign ∈ jointSigns, joins sign s = joins sign t)
    (hmarks : ∀ c ∈ computingMarks, c ∈ s ↔ c ∈ t) :
    operatorRefusal? s = operatorRefusal? t := by
  have hfind : Operator.find? s = Operator.find? t := by
    rw [Operator.find?, Operator.findIn?_eq, funext hoccurs, ← Operator.findIn?_eq, Operator.find?]
  have hcontains : ∀ c ∈ computingMarks, s.contains c = t.contains c := fun c hc => by
    rw [Bool.eq_iff_iff, List.contains_iff_mem, List.contains_iff_mem]
    exact hmarks c hc
  rw [operatorRefusal?_eq, operatorRefusal?_eq, hfind, hjoins '-' (by decide),
    hjoins '*' (by decide), hjoins '&' (by decide), hcontains '|' (by decide),
    hcontains '~' (by decide), hcontains '!' (by decide)]

/-- The search refuses nothing exactly when there is nothing of what it looks for. -/
theorem operatorRefusal?_eq_none_iff_free : operatorRefusal? s = none ↔ OperatorFree s := by
  have hfind : Operator.find? s = none ↔ ∀ op : Operator, op.occursIn s = false := by
    rw [Operator.find?, Operator.findIn?_eq_none_iff]
    exact ⟨fun h op => h op (Operator.mem_all op), fun h op _ => h op⟩
  rw [operatorRefusal?_eq_none_iff, hfind]
  constructor
  · rintro ⟨hoccurs, hminus, hstar, hand, hbar, htilde, hbang⟩
    rw [hasNegation_eq_contains (hoccurs .unequal)] at hbang
    refine ⟨hoccurs, ?_, ?_⟩
    · simp [jointSigns, hminus, hstar, hand]
    · simpa [computingMarks] using And.intro hbar (And.intro htilde hbang)
  · rintro ⟨hoccurs, hjoins, hmarks⟩
    refine ⟨hoccurs, hjoins _ (by decide), hjoins _ (by decide), hjoins _ (by decide), ?_⟩
    rw [hasNegation_eq_contains (hoccurs .unequal)]
    simpa [computingMarks] using hmarks

theorem operatorFree_congr (hoccurs : ∀ op : Operator, op.occursIn s = op.occursIn t)
    (hjoins : ∀ sign ∈ jointSigns, joins sign s = joins sign t)
    (hmarks : ∀ c ∈ computingMarks, c ∈ s ↔ c ∈ t) : OperatorFree s ↔ OperatorFree t := by
  rw [← operatorRefusal?_eq_none_iff_free, operatorRefusal?_congr hoccurs hjoins hmarks,
    operatorRefusal?_eq_none_iff_free]

/-- A text in which nothing is found but what is found in one of two others. -/
theorem operatorFree_iff_and {r : List Char}
    (hoccurs : ∀ op : Operator, op.occursIn r = (op.occursIn s || op.occursIn t))
    (hjoins : ∀ sign ∈ jointSigns, joins sign r = (joins sign s || joins sign t))
    (hmarks : ∀ c ∈ computingMarks, c ∈ r ↔ c ∈ s ∨ c ∈ t) :
    OperatorFree r ↔ OperatorFree s ∧ OperatorFree t := by
  constructor
  · intro h
    have hop op := Bool.or_eq_false_iff.mp (hoccurs op ▸ h.occurs op)
    have hsign sign hsign := Bool.or_eq_false_iff.mp (hjoins sign hsign ▸ h.joins sign hsign)
    have hmark c hc := not_or.mp (mt (hmarks c hc).mpr (h.marks c hc))
    exact ⟨⟨fun op => (hop op).1, fun d hd => (hsign d hd).1, fun d hd => (hmark d hd).1⟩,
      ⟨fun op => (hop op).2, fun d hd => (hsign d hd).2, fun d hd => (hmark d hd).2⟩⟩
  · rintro ⟨hs, ht⟩
    refine ⟨fun op => ?_, fun sign hsign => ?_, fun d hd hr => ?_⟩
    · rw [hoccurs, hs.occurs, ht.occurs, Bool.or_false]
    · rw [hjoins sign hsign, hs.joins sign hsign, ht.joins sign hsign, Bool.or_false]
    · exact ((hmarks d hd).mp hr).elim (hs.marks d hd) (ht.marks d hd)

/-! ### Parts of a text -/

theorem OperatorFree.of_append (h : OperatorFree (s ++ t)) : OperatorFree s where
  occurs op := by
    rw [Bool.eq_false_iff]
    intro hs
    rw [Operator.occursIn] at hs
    have hst := h.occurs op
    rw [Operator.occursIn, Operator.occursFrom_append_of_occursFrom hs] at hst
    cases hst
  joins sign hsign := by
    rw [Bool.eq_false_iff]
    intro hs
    have hst := h.joins sign hsign
    rw [joins_append_of_joins hs] at hst
    cases hst
  marks c hc hs := h.marks c hc (List.mem_append_left t hs)

theorem operatorFree_of_forall (h : ∀ c ∈ s, c ∉ operatorChars) : OperatorFree s where
  occurs _ := Operator.occursFrom_eq_false
    (fun c hc hsymbol => h c hc (Operator.mem_operatorChars_of_mem_symbol hsymbol)) false
  joins sign hsign := Joint.joinsFrom_eq_false
    (fun hs => h sign hs (mem_operatorChars_of_mem_jointSigns hsign)) (by decide)
  marks c hc hs := h c hs (mem_operatorChars_of_mem_computingMarks hc)

/-! ### Separators, arrows and blanks -/

/-- A separator is no blank, has no part in an operand, and no operator is written with it. -/
structure Separator (c : Char) : Prop where
  notMem : c ∉ operatorChars
  isOperandEnd : isOperandEnd c = false
  isBlank : isBlank c = false

theorem separator_point : Separator '.' := ⟨by decide, by decide, by decide⟩

theorem separator_bracket : Separator '[' := ⟨by decide, by decide, by decide⟩

theorem separator_paren : Separator '(' := ⟨by decide, by decide, by decide⟩

theorem notMem_symbol (hc : c ∉ operatorChars) (op : Operator) : c ∉ op.symbol :=
  fun h => hc (Operator.mem_operatorChars_of_mem_symbol h)

/-- An operator occurs beside a separator when it occurs on one side of it. -/
theorem occursIn_append_separator (hc : c ∉ operatorChars) (op : Operator) (s t : List Char) :
    op.occursIn (s ++ c :: t) = (op.occursIn s || op.occursIn t) := by
  have hdash : '-' ≠ c := ne_of_mem_of_not_mem (by decide) hc
  rw [Operator.occursIn, Operator.occursFrom_append_cons (notMem_symbol hc op),
    beq_false_of_ne hdash.symm, Operator.occursIn, Operator.occursIn]

/-- A separator divides a text into two, and the text is free of operators when both are. -/
theorem operatorFree_append_cons_iff (hc : Separator c) :
    OperatorFree (s ++ c :: t) ↔ OperatorFree s ∧ OperatorFree t := by
  refine operatorFree_iff_and (fun op => occursIn_append_separator hc.notMem op s t) ?_ ?_
  · intro sign hsign
    have hne := ne_of_mem_of_not_mem (mem_operatorChars_of_mem_jointSigns hsign) hc.notMem
    exact Joint.joinsFrom_append_cons hc.isOperandEnd hc.isBlank hne.symm .nothing s t
  · intro d hd
    have hne := ne_of_mem_of_not_mem (mem_operatorChars_of_mem_computingMarks hd) hc.notMem
    simp [hne]

/-- An arrow divides a text as a separator does: its first character makes the second one count for
nothing. -/
theorem operatorFree_append_arrow_iff :
    OperatorFree (s ++ '-' :: '>' :: t) ↔ OperatorFree s ∧ OperatorFree t := by
  refine operatorFree_iff_and ?_ ?_ ?_
  · intro op
    have hdash : '-' ∉ op.symbol := by cases op <;> decide
    -- The two symbols that begin with `>` do not count after `-`.
    have harrow : op.occursFrom true ('>' :: t) = op.occursFrom false t := by
      rw [Operator.occursFrom_cons]
      cases op <;> simp [Operator.symbol, Operator.sharesArrow]
    rw [Operator.occursIn, Operator.occursFrom_append_cons hdash]
    exact congrArg _ harrow
  · intro sign hsign
    have hne : '>' ≠ sign := by
      rintro rfl
      exact absurd hsign (by decide)
    have hdash : joins sign (s ++ ['-']) = joins sign s := by
      rw [joins, Joint.joinsFrom_append, Joint.joinsFrom_cons]
      simp [joins, show isWord '-' = false by decide]
    rw [List.append_cons, joins, Joint.joinsFrom_append_cons (by decide) (by decide) hne]
    rw [← joins, hdash]
    rfl
  · intro d hd
    have hdash : d ≠ '-' := ne_of_mem_of_not_mem hd (by decide)
    have hgreater : d ≠ '>' := ne_of_mem_of_not_mem hd (by decide)
    simp [hdash, hgreater]

theorem notMem_operatorChars_of_isBlankText (hu : isBlankText u = true) :
    ∀ c ∈ u, c ∉ operatorChars :=
  fun c hc => notMem_operatorChars_of_isBlank (isBlankText_iff.mp hu c hc)

/-- Blanks in front of a text have no part in the search. -/
theorem operatorRefusal?_blanks_append (hu : isBlankText u = true) (s : List Char) :
    operatorRefusal? (u ++ s) = operatorRefusal? s := by
  have hnotMem := notMem_operatorChars_of_isBlankText hu
  refine operatorRefusal?_congr (fun op => ?_) (fun sign _ => ?_) fun d hd => ?_
  · refine Operator.occursFrom_append_of_notMem (fun c hc => ⟨?_, ?_⟩) s
    · exact notMem_symbol (hnotMem c hc) op
    · exact (ne_of_mem_of_not_mem (by decide) (hnotMem c hc)).symm
  · exact Joint.joinsFrom_blanks_append hu .nothing s
  · have hd' : d ∉ u := fun h => hnotMem d h (mem_operatorChars_of_mem_computingMarks hd)
    simp [hd']

/-- A text that no operator is written with, and that does not begin as an operand, has no part in
the search where it comes last. -/
theorem operatorRefusal?_append (ht : ∀ c ∈ t, c ∉ operatorChars)
    (hopening : ∀ d, opening t = some d → isOperandEnd d = false) (s : List Char) :
    operatorRefusal? (s ++ t) = operatorRefusal? s := by
  refine operatorRefusal?_congr (fun op => ?_) (fun sign hsign => ?_) fun d hd => ?_
  · cases t with
    | nil => rw [List.append_nil]
    | cons c t =>
      have hrest : op.occursIn t = false := Operator.occursFrom_eq_false
        (fun d hd => notMem_symbol (ht d (List.mem_cons_of_mem c hd)) op) false
      rw [occursIn_append_separator (ht c (List.mem_cons_self ..)), hrest, Bool.or_false]
  · have hsign' : sign ∉ t := fun h => ht sign h (mem_operatorChars_of_mem_jointSigns hsign)
    exact Joint.joinsFrom_append_of_notMem hsign' hopening .nothing s
  · have hd' : d ∉ t := fun h => ht d h (mem_operatorChars_of_mem_computingMarks hd)
    simp [hd']

theorem operatorRefusal?_append_blanks (hu : isBlankText u = true) (s : List Char) :
    operatorRefusal? (s ++ u) = operatorRefusal? s := by
  refine operatorRefusal?_append (notMem_operatorChars_of_isBlankText hu) (fun d hd => ?_) s
  rw [opening_eq_none_iff.mpr hu] at hd
  cases hd

theorem operatorFree_blanks_append_iff (hu : isBlankText u = true) :
    OperatorFree (u ++ s) ↔ OperatorFree s := by
  rw [← operatorRefusal?_eq_none_iff_free, operatorRefusal?_blanks_append hu,
    operatorRefusal?_eq_none_iff_free]

theorem operatorFree_append_blanks_iff (hu : isBlankText u = true) :
    OperatorFree (s ++ u) ↔ OperatorFree s := by
  rw [← operatorRefusal?_eq_none_iff_free, operatorRefusal?_append_blanks hu,
    operatorRefusal?_eq_none_iff_free]

/-! ### Signs in front of a text -/

/-- A sign with nothing before it joins nothing. -/
theorem joins_cons (hend : isOperandEnd c = false) (hblank : isBlank c = false) (sign : Char)
    (s : List Char) : joins sign (c :: s) = joins sign s := by
  have hstep : Joint.step sign .nothing c = .nothing := by simp [Joint.step, hend, hblank]
  rw [joins, Joint.joinsFrom_cons, hstep]
  rfl

theorem operatorFree_star_cons_iff : OperatorFree ('*' :: s) ↔ OperatorFree s := by
  refine operatorFree_congr (fun op => ?_) (fun sign _ => ?_) fun d hd => ?_
  · have hstar : '*' ∉ op.symbol := by cases op <;> decide
    exact Operator.occursFrom_cons_of_notMem hstar false s
  · exact joins_cons (by decide) (by decide) sign s
  · have hne : d ≠ '*' := ne_of_mem_of_not_mem hd (by decide)
    simp [hne]

/-- A minus sign in front of a text takes an operand, unless it makes an arrow. -/
theorem operatorFree_dash_cons_iff (hs : s.head? ≠ some '>') :
    OperatorFree ('-' :: s) ↔ OperatorFree s := by
  refine operatorFree_congr (fun op => ?_) (fun sign _ => ?_) fun d hd => ?_
  · have hdash : '-' ∉ op.symbol := by cases op <;> decide
    rw [Operator.occursIn, Operator.occursFrom_cons_of_notMem hdash, Operator.occursIn]
    cases s with
    | nil => rfl
    | cons c s =>
      have hc : '>' ≠ c := fun h => hs (by rw [h]; rfl)
      rw [Operator.occursFrom_cons, Operator.occursFrom_cons]
      cases op <;> simp [Operator.symbol, Operator.sharesArrow, List.isPrefixOf, hc]
  · exact joins_cons (by decide) (by decide) sign s
  · have hne : d ≠ '-' := ne_of_mem_of_not_mem hd (by decide)
    simp [hne]

/-- An ampersand in front of a text takes an operand, unless it makes `&&` with the next one. -/
theorem operatorFree_ampersand_cons_iff (hs : s.head? ≠ some '&') :
    OperatorFree ('&' :: s) ↔ OperatorFree s := by
  refine operatorFree_congr (fun op => ?_) (fun sign _ => ?_) fun d hd => ?_
  · have hstart : op.symbol.isPrefixOf ('&' :: s) = false := by
      cases s with
      | nil => cases op <;> rfl
      | cons c s =>
        have hc : '&' ≠ c := fun h => hs (by rw [h]; rfl)
        cases op <;> simp [Operator.symbol, List.isPrefixOf, hc]
    rw [Operator.occursIn, Operator.occursFrom_cons, hstart]
    rfl
  · exact joins_cons (by decide) (by decide) sign s
  · have hne : d ≠ '&' := ne_of_mem_of_not_mem hd (by decide)
    simp [hne]

end WatchExpr
