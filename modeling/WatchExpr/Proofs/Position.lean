import WatchExpr.Proofs.Refusal

/-!
# Operators by their places

The checks for operators read a text from left to right.  This file says what they look for in terms
of places in the text, without a scan.  An operator of the table stands at a place where its symbol
begins and is not the end of an arrow (`Operator.StandsAt`), and a sign joins two operands at three
places with only blanks in between (`JoinedAt`).  The scans find an operator or a joint exactly
where there are such places (`Operator.occursIn_iff`, `joins_iff`), so that the reason of a refusal
is told from the places alone (`operatorRefusal?_eq_places`).

For a joint, the state of the scan at a place is read off the text before it.  Blanks leave the
state as it is, so what has been read was read at the last character that is not a blank
(`Joint.upTo_eq_iff`): an operand at its last character, and the sign at the sign, with an operand
read before it.
-/

namespace WatchExpr

variable {s : List Char} {sign : Char} {i n : Nat}

/-! ### Operators of the table -/

/-- The symbols that begin with the last character of an arrow. -/
def arrowSymbols : List (List Char) := [['>', '>'], ['>', '=']]

namespace Operator

variable {op : Operator}

theorem sharesArrow_iff : op.sharesArrow = true ↔ op.symbol ∈ arrowSymbols := by
  cases op <;> decide

/-- The operator stands at the place `i` of the text. -/
structure StandsAt (op : Operator) (s : List Char) (i : Nat) : Prop where
  symbol : op.symbol <+: s.drop i
  /-- It is not the end of an arrow. -/
  arrow : op.symbol ∈ arrowSymbols → 0 < i → s[i - 1]? ≠ some '-'

instance (op : Operator) (s : List Char) (i : Nat) : Decidable (op.StandsAt s i) :=
  decidable_of_iff
    (op.symbol <+: s.drop i ∧ (op.symbol ∈ arrowSymbols → 0 < i → s[i - 1]? ≠ some '-'))
    ⟨fun ⟨symbol, arrow⟩ => ⟨symbol, arrow⟩, fun h => ⟨h.symbol, h.arrow⟩⟩

theorem StandsAt.lt_length (h : op.StandsAt s i) : i < s.length := by
  refine Nat.lt_of_not_le fun hi => ?_
  have hsymbol := h.symbol
  rw [List.drop_eq_nil_of_le hi] at hsymbol
  exact op.symbol_ne_nil (List.prefix_nil.mp hsymbol)

/-- An operator is not moved into an arrow by a text in front, unless it stands first and the text
ends in `-`. -/
theorem StandsAt.append_left {t : List Char} (h : op.StandsAt t i)
    (harrow : op.symbol ∈ arrowSymbols → op.symbol <+: t → s.getLast? ≠ some '-') :
    op.StandsAt (s ++ t) (s.length + i) := by
  refine ⟨?_, fun hsymbol hpos => ?_⟩
  · rw [List.drop_length_add_append]
    exact h.symbol
  · cases i with
    | zero =>
      rw [Nat.add_zero] at hpos ⊢
      rw [List.getElem?_append_left (Nat.sub_one_lt_of_lt hpos), ← List.getLast?_eq_getElem?]
      exact harrow hsymbol h.symbol
    | succ i =>
      rw [Nat.add_succ_sub_one, List.getElem?_append_right (Nat.le_add_right ..),
        Nat.add_sub_cancel_left]
      exact h.arrow hsymbol i.succ_pos

/-- The scan from any place on, with the character `x` before it. -/
theorem occursFrom_iff (x : Char) :
    op.occursFrom (x == '-') s = true ↔
      ∃ i, op.symbol <+: s.drop i ∧ (op.sharesArrow = true → (x :: s)[i]? ≠ some '-') := by
  induction s generalizing x with
  | nil =>
    refine iff_of_false Bool.false_ne_true ?_
    rintro ⟨i, hsymbol, -⟩
    rw [List.drop_nil] at hsymbol
    exact op.symbol_ne_nil (List.prefix_nil.mp hsymbol)
  | cons c s ih =>
    have hstart : (!(op.sharesArrow && x == '-')) = true ↔
        (op.sharesArrow = true → (x :: c :: s)[0]? ≠ some '-') := by
      cases op.sharesArrow <;> simp
    rw [occursFrom_cons, Bool.or_eq_true, Bool.and_eq_true, List.isPrefixOf_iff_prefix, hstart, ih]
    constructor
    · rintro (⟨hsymbol, harrow⟩ | ⟨i, hsymbol, harrow⟩)
      · exact ⟨0, hsymbol, harrow⟩
      · exact ⟨i + 1, hsymbol, harrow⟩
    · rintro ⟨i, hsymbol, harrow⟩
      cases i with
      | zero => exact .inl ⟨hsymbol, harrow⟩
      | succ i => exact .inr ⟨i, hsymbol, harrow⟩

/-- An operator occurs in a text when it stands at some place of it. -/
theorem occursIn_iff : op.occursIn s = true ↔ ∃ i < s.length, op.StandsAt s i := by
  have hplace : ∀ i, (op.sharesArrow = true → (' ' :: s)[i]? ≠ some '-') ↔
      (op.symbol ∈ arrowSymbols → 0 < i → s[i - 1]? ≠ some '-') := by
    intro i
    rw [← sharesArrow_iff]
    cases i with
    | zero => simp
    | succ i => simp
  -- Before the first character any character but `-` can be thought of.
  rw [occursIn, show false = (' ' == '-') from rfl, occursFrom_iff]
  constructor
  · rintro ⟨i, hsymbol, harrow⟩
    have hi : op.StandsAt s i := ⟨hsymbol, (hplace i).mp harrow⟩
    exact ⟨i, hi.lt_length, hi⟩
  · rintro ⟨i, -, hi⟩
    exact ⟨i, hi.symbol, (hplace i).mpr hi.arrow⟩

end Operator

/-- Of the three places of `>` in `p->>>q`, a shift stands at the second one alone. -/
example : ∀ i < 6, Operator.shiftRight.StandsAt ['p', '-', '>', '>', '>', 'q'] i ↔ i = 3 := by
  decide

/-- Some operator of the table stands somewhere in the text. -/
def HoldsOperator (s : List Char) : Prop := ∃ op ∈ Operator.all, ∃ i < s.length, op.StandsAt s i

instance (s : List Char) : Decidable (HoldsOperator s) :=
  inferInstanceAs (Decidable (∃ op ∈ Operator.all, _))

theorem find?_isSome_iff : (Operator.find? s).isSome = true ↔ HoldsOperator s := by
  rw [Operator.find?, Operator.findIn?_eq, List.find?_isSome]
  refine exists_congr fun op => and_congr_right fun _ => ?_
  exact Operator.occursIn_iff

/-! ### Signs between operands -/

/-- Strictly between the places `i` and `j` of the text stand only blanks. -/
def BlanksBetween (s : List Char) (i j : Nat) : Prop :=
  ∀ p < j, i < p → (s[p]?).any isBlank = true

instance (s : List Char) (i j : Nat) : Decidable (BlanksBetween s i j) :=
  inferInstanceAs (Decidable (∀ p < j, _))

/-- At the places `i`, `j` and `k` of the text stand the end of an operand, the sign and the start
of an operand, with only blanks in between. -/
structure JoinedAt (sign : Char) (s : List Char) (i j k : Nat) : Prop where
  operand : (s[i]?).any isOperandEnd = true
  before : BlanksBetween s i j
  sign : s[j]? = some sign
  after : BlanksBetween s j k
  next : (s[k]?).any isWord = true

instance (sign : Char) (s : List Char) (i j k : Nat) : Decidable (JoinedAt sign s i j k) :=
  decidable_of_iff
    ((s[i]?).any isOperandEnd = true ∧ BlanksBetween s i j ∧ s[j]? = some sign ∧
      BlanksBetween s j k ∧ (s[k]?).any isWord = true)
    ⟨fun ⟨operand, before, hsign, after, next⟩ => ⟨operand, before, hsign, after, next⟩,
      fun h => ⟨h.operand, h.before, h.sign, h.after, h.next⟩⟩

/-- The sign joins two operands somewhere in the text. -/
def HoldsJoint (sign : Char) (s : List Char) : Prop :=
  ∃ k < s.length, ∃ j < k, ∃ i < j, JoinedAt sign s i j k

instance (sign : Char) (s : List Char) : Decidable (HoldsJoint sign s) :=
  inferInstanceAs (Decidable (∃ k < s.length, _))

theorem blanksBetween_succ_self (s : List Char) (i : Nat) : BlanksBetween s i (i + 1) := by
  intro p hp hi
  omega

theorem blanksBetween_succ (h : i < n) :
    BlanksBetween s i (n + 1) ↔ BlanksBetween s i n ∧ (s[n]?).any isBlank = true := by
  constructor
  · intro hblank
    exact ⟨fun p hp => hblank p (Nat.lt_succ_of_lt hp), hblank n (Nat.lt_succ_self n) h⟩
  · rintro ⟨hblank, hn⟩ p hp hi
    rcases Nat.lt_succ_iff_lt_or_eq.mp hp with hp | rfl
    · exact hblank p hp hi
    · exact hn

/-! ### The scan for a sign -/

theorem isBlank_of_isOperandEnd {c : Char} (h : isOperandEnd c = true) : isBlank c = false := by
  rw [Bool.eq_false_iff]
  intro hblank
  rw [isOperandEnd_of_isBlank hblank] at h
  cases h

namespace Joint

/-- What has been read up to the place `n` of the text. -/
def upTo (sign : Char) (s : List Char) (n : Nat) : Joint := (s.take n).foldl (step sign) .nothing

theorem upTo_succ {c : Char} (h : s[n]? = some c) :
    upTo sign s (n + 1) = (upTo sign s n).step sign c := by
  obtain ⟨hn, rfl⟩ := List.getElem?_eq_some_iff.mp h
  rw [upTo, List.take_succ_eq_append_getElem hn, List.foldl_append]
  rfl

/-- At a character that is no blank, an operand is read when it can end one. -/
theorem step_eq_operand_iff {c : Char} (hblank : isBlank c = false) (j : Joint) :
    step sign j c = .operand ↔ isOperandEnd c = true := by
  unfold step
  rw [hblank, if_neg Bool.false_ne_true]
  split
  · next hend => exact iff_of_true rfl hend
  · next hend =>
    refine iff_of_false ?_ hend
    split <;> decide

/-- At a character that is no blank, the sign is read when it is the sign after an operand. -/
theorem step_eq_sign_iff {c : Char} (hend : isOperandEnd sign = false) (hblank : isBlank c = false)
    (j : Joint) : step sign j c = .sign ↔ c = sign ∧ j = .operand := by
  unfold step
  rw [hblank, if_neg Bool.false_ne_true]
  split
  · next hc =>
    refine iff_of_false (by decide) ?_
    rintro ⟨rfl, -⟩
    rw [hend] at hc
    cases hc
  · split
    · next h => exact iff_of_true rfl h
    · next h => exact iff_of_false (by decide) h

/-- A joint is completed by a word character with the sign read before it. -/
theorem joinsFrom_iff (j : Joint) :
    joinsFrom sign j s = true ↔
      ∃ k < s.length, (s[k]?).any isWord = true ∧ (s.take k).foldl (step sign) j = .sign := by
  induction s generalizing j with
  | nil => simp
  | cons c s ih =>
    rw [joinsFrom_cons, Bool.or_eq_true, Bool.and_eq_true, decide_eq_true_iff, ih]
    constructor
    · rintro (⟨hj, hword⟩ | ⟨k, hk, hword, hstate⟩)
      · exact ⟨0, Nat.zero_lt_succ _, hword, hj⟩
      · exact ⟨k + 1, Nat.succ_lt_succ hk, hword, hstate⟩
    · rintro ⟨k, hk, hword, hstate⟩
      cases k with
      | zero => exact .inl ⟨hstate, hword⟩
      | succ k => exact .inr ⟨k, Nat.lt_of_succ_lt_succ hk, hword, hstate⟩

/-- What has been read was read at the last character that is not a blank. -/
theorem upTo_eq_iff {x : Joint} (hx : x ≠ .nothing) (hn : n ≤ s.length) :
    upTo sign s n = x ↔
      ∃ i < n, (s[i]?).any isBlank = false ∧ upTo sign s (i + 1) = x ∧ BlanksBetween s i n := by
  induction n with
  | zero =>
    refine iff_of_false (fun h => hx h.symm) ?_
    rintro ⟨i, hi, -⟩
    exact absurd hi (Nat.not_lt_zero i)
  | succ n ih =>
    have hget : s[n]? = some s[n] := List.getElem?_eq_getElem hn
    by_cases hblank : isBlank s[n] = true
    · rw [upTo_succ hget, step_of_isBlank hblank, ih (Nat.le_of_succ_le hn)]
      constructor
      · rintro ⟨i, hi, hc, hread, hbetween⟩
        refine ⟨i, Nat.lt_succ_of_lt hi, hc, hread, (blanksBetween_succ hi).mpr ⟨hbetween, ?_⟩⟩
        rw [hget]
        exact hblank
      · rintro ⟨i, hi, hc, hread, hbetween⟩
        rcases Nat.lt_succ_iff_lt_or_eq.mp hi with hi | rfl
        · exact ⟨i, hi, hc, hread, ((blanksBetween_succ hi).mp hbetween).1⟩
        · rw [hget] at hc
          exact absurd hblank (Bool.eq_false_iff.mp hc)
    · constructor
      · intro hread
        refine ⟨n, Nat.lt_succ_self n, ?_, hread, blanksBetween_succ_self s n⟩
        rw [hget]
        exact Bool.eq_false_iff.mpr hblank
      · rintro ⟨i, hi, -, hread, hbetween⟩
        rcases Nat.lt_succ_iff_lt_or_eq.mp hi with hi | rfl
        · have hn' := ((blanksBetween_succ hi).mp hbetween).2
          rw [hget] at hn'
          exact absurd hn' hblank
        · exact hread

/-- An operand is read at its last character. -/
theorem upTo_eq_operand_iff (hn : n ≤ s.length) :
    upTo sign s n = .operand ↔
      ∃ i < n, (s[i]?).any isOperandEnd = true ∧ BlanksBetween s i n := by
  rw [upTo_eq_iff (by decide) hn]
  refine exists_congr fun i => and_congr_right fun hi => ?_
  have hget : s[i]? = some s[i] := List.getElem?_eq_getElem (Nat.lt_of_lt_of_le hi hn)
  rw [upTo_succ hget, hget, ← and_assoc]
  refine and_congr_left fun _ => ⟨?_, fun hend => ?_⟩
  · rintro ⟨hblank, hread⟩
    exact (step_eq_operand_iff hblank _).mp hread
  · have hblank := isBlank_of_isOperandEnd hend
    exact ⟨hblank, (step_eq_operand_iff hblank _).mpr hend⟩

/-- The sign is read at the sign, with an operand read before it. -/
theorem upTo_eq_sign_iff (hend : isOperandEnd sign = false) (hblank : isBlank sign = false)
    (hn : n ≤ s.length) :
    upTo sign s n = .sign ↔
      ∃ j < n, s[j]? = some sign ∧ upTo sign s j = .operand ∧ BlanksBetween s j n := by
  rw [upTo_eq_iff (by decide) hn]
  refine exists_congr fun j => and_congr_right fun hj => ?_
  have hget : s[j]? = some s[j] := List.getElem?_eq_getElem (Nat.lt_of_lt_of_le hj hn)
  rw [upTo_succ hget, hget, ← and_assoc, ← and_assoc, Option.some_inj]
  refine and_congr_left fun _ => ⟨?_, ?_⟩
  · rintro ⟨hc, hread⟩
    exact (step_eq_sign_iff hend hc _).mp hread
  · rintro ⟨hc, hread⟩
    have hc' : isBlank s[j] = false := by rwa [hc]
    exact ⟨hc', (step_eq_sign_iff hend hc' _).mpr ⟨hc, hread⟩⟩

end Joint

/-- A sign joins two operands in a text when there are three places for it. -/
theorem joins_iff (hend : isOperandEnd sign = false) (hblank : isBlank sign = false) :
    joins sign s = true ↔ HoldsJoint sign s := by
  rw [joins, Joint.joinsFrom_iff]
  refine exists_congr fun k => and_congr_right fun hk => ?_
  have hk' : k ≤ s.length := Nat.le_of_lt hk
  rw [← Joint.upTo, Joint.upTo_eq_sign_iff hend hblank hk']
  constructor
  · rintro ⟨hnext, j, hj, hsign, hread, hafter⟩
    obtain ⟨i, hi, hoperand, hbefore⟩ :=
      (Joint.upTo_eq_operand_iff (Nat.le_trans (Nat.le_of_lt hj) hk')).mp hread
    exact ⟨j, hj, i, hi, hoperand, hbefore, hsign, hafter, hnext⟩
  · rintro ⟨j, hj, i, hi, h⟩
    refine ⟨h.next, j, hj, h.sign, ?_, h.after⟩
    exact (Joint.upTo_eq_operand_iff (Nat.le_trans (Nat.le_of_lt hj) hk')).mpr
      ⟨i, hi, h.operand, h.before⟩

theorem joins_iff_of_mem (h : sign ∈ jointSigns) : joins sign s = true ↔ HoldsJoint sign s := by
  have hall : jointSigns.all (fun c => !isOperandEnd c && !isBlank c) = true := by decide
  have hsign := List.all_eq_true.mp hall sign h
  rw [Bool.and_eq_true, Bool.not_eq_true', Bool.not_eq_true'] at hsign
  exact joins_iff hsign.1 hsign.2

/-! ### The reason -/

/-- Where no operator of the table stands in the text, no exclamation mark has `=` after it. -/
theorem next_ne_of_not_holdsOperator (h : ¬ HoldsOperator s) (hi : s[i]? = some '!') :
    s[i + 1]? ≠ some '=' := by
  intro hnext
  obtain ⟨hlt, hget⟩ := List.getElem?_eq_some_iff.mp hnext
  obtain ⟨hlt', hget'⟩ := List.getElem?_eq_some_iff.mp hi
  refine h ⟨.unequal, Operator.mem_all _, i, hlt', ?_, fun harrow => ?_⟩
  · rw [List.drop_eq_getElem_cons hlt', List.drop_eq_getElem_cons hlt, hget, hget']
    exact List.prefix_append ['!', '='] _
  · exact absurd harrow (by decide)

/-- The reason for which the operators of a text are refused, by the places at which they stand.
The look-ahead for an arrow makes no difference, and the search for a negation meets no `!=`. -/
theorem operatorRefusal?_eq_places (s : List Char) :
    (operatorRefusal? s =
      if HoldsOperator s then some .binaryOperator
      else if HoldsJoint '-' s then some .subtraction
      else if HoldsJoint '*' s then some .multiplication
      else if HoldsJoint '&' s then some .bitwiseAnd
      else if '|' ∈ s then some .bitwiseOr
      else if '~' ∈ s then some .bitwiseNot
      else if '!' ∈ s then some .logicalNot
      else none) ∧
    subtracts s = joins '-' s ∧
    (HoldsOperator s ∨ ∀ i, s[i]? = some '!' → s[i + 1]? ≠ some '=') := by
  refine ⟨?_, subtracts_eq_joins s, ?_⟩
  · simp only [operatorRefusal?_eq, find?_isSome_iff, List.contains_iff_mem,
      joins_iff_of_mem (show '-' ∈ jointSigns by decide),
      joins_iff_of_mem (show '*' ∈ jointSigns by decide),
      joins_iff_of_mem (show '&' ∈ jointSigns by decide)]
  · by_cases h : HoldsOperator s
    · exact .inl h
    · exact .inr fun i => next_ne_of_not_holdsOperator h

/-- A negation after an arrow, and no operator of the table: `!` is not the first half of `!=`. -/
theorem operatorRefusal?_eq_places_negation :
    ¬ HoldsOperator ['p', '-', '>', '!', 'a'] ∧
      operatorRefusal? ['p', '-', '>', '!', 'a'] = some .logicalNot ∧
      ['p', '-', '>', '!', 'a'][3]? = some '!' ∧ ['p', '-', '>', '!', 'a'][3 + 1]? ≠ some '=' := by
  obtain ⟨hreason, -, hskip⟩ := operatorRefusal?_eq_places ['p', '-', '>', '!', 'a']
  have hnone : ¬ HoldsOperator ['p', '-', '>', '!', 'a'] := by decide
  have hmark : ['p', '-', '>', '!', 'a'][3]? = some '!' := rfl
  exact ⟨hnone, hreason.trans (by decide), hmark, hskip.resolve_left hnone 3 hmark⟩

end WatchExpr
