import WatchExpr.Proofs.Position

/-!
# Which operator is found

A text can hold several operators, and the search gives one of them: the first in the order of the
table, wherever they stand in the text (`FirstIn`).  The order decides which operator is given and
never whether one is (`findIn?_eq_none_iff_of_perm`).

A shift and a comparison begin with the last character of an arrow.  In a text in which every `>`
ends an arrow the search passes over each place of these two and finds neither
(`not_standsAt_of_onlyArrows`).  In `p->>>q` it passes over one place and stops at the next, which
overlaps it.
-/

namespace WatchExpr.Operator

variable {op : Operator} {s : List Char} {table : List Operator}

/-! ### The first operator of a table -/

/-- Of the operators in the table, `op` is the first one that stands anywhere in the text. -/
structure FirstIn (table : List Operator) (s : List Char) (op : Operator) : Prop where
  stands : ∃ i, op.StandsAt s i
  first : ∃ before after, table = before ++ op :: after ∧
    ∀ earlier ∈ before, ∀ i, ¬ earlier.StandsAt s i

theorem isFoundIn_iff : op.isFoundIn s = true ↔ ∃ i, op.StandsAt s i := by
  rw [isFoundIn_eq_occursIn, occursIn_iff]
  constructor
  · rintro ⟨i, -, hi⟩
    exact ⟨i, hi⟩
  · rintro ⟨i, hi⟩
    exact ⟨i, hi.lt_length, hi⟩

theorem isFoundIn_eq_false_iff : op.isFoundIn s = false ↔ ∀ i, ¬ op.StandsAt s i := by
  rw [Bool.eq_false_iff, ne_eq, isFoundIn_iff, not_exists]

theorem findIn?_eq_some_iff : findIn? table s = some op ↔ FirstIn table s op := by
  rw [findIn?, List.find?_eq_some_iff_append, isFoundIn_iff]
  simp only [Bool.not_eq_true', isFoundIn_eq_false_iff]
  exact ⟨fun ⟨hstands, hfirst⟩ => ⟨hstands, hfirst⟩, fun h => ⟨h.stands, h.first⟩⟩

theorem findIn?_eq_none_iff_places :
    findIn? table s = none ↔ ∀ op ∈ table, ∀ i, ¬ op.StandsAt s i := by
  simp only [findIn?, List.find?_eq_none, Bool.not_eq_true, isFoundIn_eq_false_iff]

/-- In whatever order the operators are looked for, one is found in the same texts. -/
theorem findIn?_eq_none_iff_of_perm {table' : List Operator} (h : table.Perm table') :
    findIn? table s = none ↔ findIn? table' s = none := by
  rw [findIn?_eq_none_iff_places, findIn?_eq_none_iff_places]
  exact forall_congr' fun op => imp_congr_left h.mem_iff

/-! ### Arrows -/

/-- Every `>` of the text is the end of an arrow. -/
def OnlyArrows (s : List Char) : Prop :=
  ∀ i < s.length, s[i]? = some '>' → 0 < i ∧ s[i - 1]? = some '-'

instance (s : List Char) : Decidable (OnlyArrows s) :=
  inferInstanceAs (Decidable (∀ i < s.length, _))

theorem head?_of_mem_arrowSymbols (h : op.symbol ∈ arrowSymbols) : op.symbol.head? = some '>' := by
  cases op <;> first | rfl | exact absurd h (by decide)

/-- Where every `>` ends an arrow, no shift and no comparison stands that begins with one. -/
theorem not_standsAt_of_onlyArrows (hs : OnlyArrows s) (hop : op.symbol ∈ arrowSymbols) (i : Nat) :
    ¬ op.StandsAt s i := by
  intro h
  have hgreater : s[i]? = some '>' := by
    obtain ⟨rest, hrest⟩ := h.symbol
    rw [← List.head?_drop, ← hrest, List.head?_append, head?_of_mem_arrowSymbols hop]
    rfl
  obtain ⟨hpos, hdash⟩ := hs i h.lt_length hgreater
  exact h.arrow hop hpos hdash

/-! ### The answer of the search -/

/-- The search gives the first operator of the table that stands anywhere in the text, and none only
when there is no such operator.  So it finds something in the same texts whatever the order of the
table, and where every `>` ends an arrow it gives neither of the operators that begin with it. -/
theorem find?_earliest (s : List Char) :
    (∀ op, find? s = some op ↔ FirstIn all s op) ∧
      (find? s = none ↔ ∀ op ∈ all, ∀ i, ¬ op.StandsAt s i) ∧
      (∀ table, table.Perm all → (findIn? table s = none ↔ find? s = none)) ∧
      (OnlyArrows s → ∀ op, op.symbol ∈ arrowSymbols → find? s ≠ some op) := by
  refine ⟨fun op => findIn?_eq_some_iff, findIn?_eq_none_iff_places,
    fun table => findIn?_eq_none_iff_of_perm, fun hs op hop hfind => ?_⟩
  obtain ⟨i, hi⟩ := (findIn?_eq_some_iff.mp hfind).stands
  exact not_standsAt_of_onlyArrows hs hop i hi

/-- A member that begins with `=`, which no name does: its arrow makes no comparison, in the table
or in the table from the last operator on. -/
theorem find?_earliest_arrow :
    OnlyArrows ['p', '-', '>', '=', 'q'] ∧ all.reverse.Perm all ∧
      find? ['p', '-', '>', '=', 'q'] ≠ some .atLeast ∧
      findIn? all.reverse ['p', '-', '>', '=', 'q'] = none := by
  have harrows : OnlyArrows ['p', '-', '>', '=', 'q'] := by decide
  have hperm : all.reverse.Perm all := List.reverse_perm all
  obtain ⟨-, -, htable, hnone⟩ := find?_earliest ['p', '-', '>', '=', 'q']
  exact ⟨harrows, hperm, hnone harrows .atLeast (by decide), (htable _ hperm).mpr (by decide)⟩

/-- The order is that of the table and not that of the text. -/
example : find? ['a', '+', 'b', '>', '>', 'c'] = some .shiftRight := by decide

end WatchExpr.Operator
