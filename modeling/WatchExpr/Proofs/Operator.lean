import WatchExpr.Operator
import WatchExpr.Proofs.Blank

/-!
# Operators across a seam

Whether an operator occurs in a text is told from the parts of the text when they are divided by a
character that no symbol has (`occursFrom_append_cons`), or by one that is not the whole symbol
while its two neighbours are in none (`occursFrom_append_lone`).  An occurrence is not lost when
text is added after it (`occursFrom_append_of_occursFrom`), and a symbol put into a text occurs
there unless it turns into the end of an arrow (`occursIn_append_symbol`).

The characters that operators are written with are collected in `operatorChars`; word characters and
blanks are not among them.

All this is said of the scan.  The search finds what the scan finds (`isFoundIn_eq_occursIn`),
because no occurrence of the symbol is missed between two places at which the search stops.
-/

namespace WatchExpr

variable {c : Char} {s t : List Char}

/-! ### The characters of operators -/

/-- The characters that some operator, in the table or outside it, is written with. -/
def operatorChars : List Char :=
  ['<', '>', '=', '!', '&', '|', '+', '/', '%', '^', '?', ':', '-', '*', '~']

theorem notMem_operatorChars_of_isWord (h : isWord c = true) : c ∉ operatorChars :=
  notMem_of_any_eq_false (by decide) h

theorem notMem_operatorChars_of_isBlank (h : isBlank c = true) : c ∉ operatorChars :=
  notMem_of_any_eq_false (by decide) h

namespace Operator

theorem mem_operatorChars_of_mem_symbol {op : Operator} (h : c ∈ op.symbol) :
    c ∈ operatorChars := by
  have hsubset : op.symbol ⊆ operatorChars := by cases op <;> decide
  exact hsubset h

theorem symbol_ne_nil (op : Operator) : op.symbol ≠ [] := by cases op <;> decide

/-! ### The search and the scan -/

theorem charBefore_cons (last : Option Char) (c : Char) (s : List Char) (i : Nat) :
    charBefore last (c :: s) (i + 1) = charBefore (some c) s i := by
  cases i <;> rfl

/-- Where the symbol begins at no place, the operator does not occur. -/
theorem occursFrom_of_placeFrom?_eq_none {op : Operator} {start : Nat}
    (h : op.placeFrom? start s = none) (b : Bool) : op.occursFrom b s = false := by
  induction s generalizing start b with
  | nil => rfl
  | cons c s ih =>
    rw [placeFrom?] at h
    split at h
    · cases h
    · next hstart =>
      rw [occursFrom_cons, Bool.eq_false_iff.mpr hstart, ih h]
      rfl

/-- Before the first place at which the symbol begins there is no occurrence. -/
theorem occursFrom_of_placeFrom?_eq_some {op : Operator} {start place : Nat}
    (h : op.placeFrom? start s = some place) :
    ∃ i, place = start + i ∧ ∀ last, op.occursFrom (last == some '-') s
      = (!(op.sharesArrow && charBefore last s i == some '-')
        || op.occursFrom (s[i]? == some '-') (s.drop (i + 1))) := by
  induction s generalizing start with
  | nil => cases h
  | cons c s ih =>
    rw [placeFrom?] at h
    split at h
    · next hstart =>
      refine ⟨0, (Option.some.inj h).symm, fun last => ?_⟩
      rw [occursFrom_cons, hstart]
      rfl
    · next hstart =>
      obtain ⟨i, hplace, hoccurs⟩ := ih h
      refine ⟨i + 1, by omega, fun last => ?_⟩
      rw [occursFrom_cons, Bool.eq_false_iff.mpr hstart, charBefore_cons]
      exact hoccurs (some c)

/-- From any place on, the search finds the operator where the scan does. -/
theorem searchFrom_eq_occursFrom (op : Operator) (skip : Nat) (last : Option Char)
    (s : List Char) :
    op.searchFrom skip last s
      = op.occursFrom (charBefore last s skip == some '-') (s.drop skip) := by
  induction s generalizing skip last with
  | nil =>
    rw [List.drop_nil]
    cases skip <;> rfl
  | cons c s ih =>
    cases skip with
    | succ skip =>
      rw [searchFrom, ih, charBefore_cons]
      rfl
    | zero =>
      rw [searchFrom]
      cases hplace : op.placeFrom? 0 (c :: s) with
      | none => exact (occursFrom_of_placeFrom?_eq_none hplace _).symm
      | some place =>
        obtain ⟨i, rfl, hoccurs⟩ := occursFrom_of_placeFrom?_eq_some hplace
        -- The search goes on after the place that it passes over, as the scan does.
        have hnext : op.searchFrom i (some c) s
            = op.occursFrom ((c :: s)[i]? == some '-') ((c :: s).drop (i + 1)) := by
          rw [ih, ← charBefore_cons last]
          rfl
        show _ = op.occursFrom (last == some '-') (c :: s)
        rw [hoccurs, Nat.zero_add, ← hnext]
        cases hpass : op.sharesArrow && charBefore last (c :: s) i == some '-' <;> simp [hpass]

/-- The search and the scan find the same operators. -/
theorem isFoundIn_eq_occursIn (op : Operator) (s : List Char) : op.isFoundIn s = op.occursIn s :=
  searchFrom_eq_occursFrom op 0 none s

theorem findIn?_eq (table : List Operator) (s : List Char) :
    findIn? table s = table.find? fun op => op.occursIn s :=
  congrArg table.find? (funext fun op => isFoundIn_eq_occursIn op s)

/-- No operator is found exactly when none of the table occurs. -/
theorem findIn?_eq_none_iff {table : List Operator} :
    findIn? table s = none ↔ ∀ op ∈ table, op.occursIn s = false := by
  rw [findIn?_eq]
  simp

/-! ### Occurrences in the parts of a text -/

theorem isPrefixOf_append_cons {p : List Char} (h : c ∉ p) (s t : List Char) :
    p.isPrefixOf (s ++ c :: t) = p.isPrefixOf s := by
  induction p generalizing s with
  | nil => simp
  | cons d p ih =>
    rw [List.mem_cons, not_or] at h
    cases s with
    | nil => simp [List.isPrefixOf, Ne.symm h.1]
    | cons e s => simp [List.isPrefixOf, ih h.2]

variable {op : Operator}

/-- A character that is not in the symbol divides the occurrences into those before it and those
after it. -/
theorem occursFrom_append_cons (h : c ∉ op.symbol) (b : Bool) (s t : List Char) :
    op.occursFrom b (s ++ c :: t) = (op.occursFrom b s || op.occursFrom (c == '-') t) := by
  induction s generalizing b with
  | nil =>
    have hstart := isPrefixOf_append_cons h [] t
    rw [List.nil_append] at hstart ⊢
    rw [occursFrom_cons, hstart]
    simp [symbol_ne_nil]
  | cons d s ih =>
    rw [List.cons_append, occursFrom_cons, ih, ← List.cons_append, isPrefixOf_append_cons h,
      occursFrom_cons, Bool.or_assoc]

theorem occursFrom_cons_of_notMem (h : c ∉ op.symbol) (b : Bool) (t : List Char) :
    op.occursFrom b (c :: t) = op.occursFrom (c == '-') t := by
  simpa using occursFrom_append_cons h b [] t

/-- A text that shares no character with the symbol, and no `-` with an arrow, has no part in
whether the operator occurs after it. -/
theorem occursFrom_append_of_notMem (hs : ∀ c ∈ s, c ∉ op.symbol ∧ c ≠ '-') (t : List Char) :
    op.occursFrom false (s ++ t) = op.occursFrom false t := by
  induction s with
  | nil => rfl
  | cons c s ih =>
    obtain ⟨hc, hdash⟩ := hs c (List.mem_cons_self ..)
    rw [List.cons_append, occursFrom_cons_of_notMem hc, beq_false_of_ne hdash]
    exact ih fun d hd => hs d (List.mem_cons_of_mem c hd)

theorem occursFrom_eq_false (hs : ∀ c ∈ s, c ∉ op.symbol) (b : Bool) :
    op.occursFrom b s = false := by
  induction s generalizing b with
  | nil => rfl
  | cons c s ih =>
    rw [occursFrom_cons_of_notMem (hs c (List.mem_cons_self ..))]
    exact ih (fun d hd => hs d (List.mem_cons_of_mem c hd)) _

/-- What is added after a text does not undo an occurrence in it. -/
theorem occursFrom_append_of_occursFrom {b : Bool} (h : op.occursFrom b s = true) (t : List Char) :
    op.occursFrom b (s ++ t) = true := by
  induction s generalizing b with
  | nil => cases h
  | cons c s ih =>
    rw [occursFrom_cons, Bool.or_eq_true, Bool.and_eq_true] at h
    rw [List.cons_append, occursFrom_cons, Bool.or_eq_true, Bool.and_eq_true, ← List.cons_append]
    rcases h with ⟨hsymbol, harrow⟩ | h
    · rw [List.isPrefixOf_iff_prefix] at hsymbol ⊢
      exact .inl ⟨hsymbol.trans (List.prefix_append ..), harrow⟩
    · exact .inr (ih h)

/-- A character that is no symbol by itself begins no occurrence where the next one is not in the
symbol. -/
theorem occursFrom_lone_cons (hc : op.symbol ≠ [c]) (ht : ∀ d ∈ t.head?, d ∉ op.symbol)
    (a b : Bool) : op.occursFrom a (c :: t) = op.occursFrom b t := by
  have hlone : op.occursFrom a [c] = false := by
    have hstart : op.symbol.isPrefixOf [c] = false := by
      rw [Bool.eq_false_iff, ne_eq, List.isPrefixOf_iff_prefix, List.prefix_cons_iff]
      rintro (hnil | ⟨rest, hsymbol, hrest⟩)
      · exact op.symbol_ne_nil hnil
      · rw [List.prefix_nil.mp hrest] at hsymbol
        exact hc hsymbol
    rw [occursFrom_cons, hstart]
    rfl
  cases t with
  | nil => exact hlone
  | cons d t =>
    have hd : d ∉ op.symbol := ht d rfl
    have hseam := occursFrom_append_cons hd a [c] t
    rw [List.singleton_append, hlone, Bool.false_or] at hseam
    rw [hseam, occursFrom_cons_of_notMem hd]

/-- Such a character divides the occurrences if the one before it is not in the symbol either. -/
theorem occursFrom_append_lone (hc : op.symbol ≠ [c]) (hs : ∀ d ∈ s.getLast?, d ∉ op.symbol)
    (ht : ∀ d ∈ t.head?, d ∉ op.symbol) (b : Bool) :
    op.occursFrom b (s ++ c :: t) = (op.occursFrom b s || op.occursFrom false t) := by
  rcases List.eq_nil_or_concat s with rfl | ⟨s, d, rfl⟩
  · exact occursFrom_lone_cons hc ht b false
  · have hd : d ∉ op.symbol := hs d (by simp)
    rw [List.concat_eq_append, List.append_assoc, List.singleton_append, occursFrom_append_cons hd,
      occursFrom_append_cons hd, occursFrom_lone_cons hc ht _ false, occursFrom_nil, Bool.or_false]

/-- A text that begins with the symbol holds the operator, unless the symbol can be the end of an
arrow and `-` stands before it. -/
theorem occursFrom_of_symbol_at_start {b : Bool} (h : op.symbol <+: s)
    (hb : op.sharesArrow = true → b = false) :
    op.occursFrom b s = true := by
  cases s with
  | nil => exact absurd (List.prefix_nil.mp h) op.symbol_ne_nil
  | cons c s =>
    have harrow : (op.sharesArrow && b) = false := by
      rw [Bool.and_eq_false_imp]
      exact hb
    rw [occursFrom_cons, List.isPrefixOf_iff_prefix.mpr h, harrow]
    rfl

/-- The symbol of an operator is an occurrence of it anywhere in a text, with the same exception. -/
theorem occursIn_append_symbol (s t : List Char)
    (h : op.sharesArrow = true → s.getLast? ≠ some '-') :
    op.occursIn (s ++ (op.symbol ++ t)) = true := by
  -- What stands before the symbol is known from `s`, unless the symbol comes first.
  suffices hfrom : ∀ b, (op.sharesArrow = true → s = [] → b = false) →
      op.occursFrom b (s ++ (op.symbol ++ t)) = true from hfrom false fun _ _ => rfl
  induction s with
  | nil =>
    intro b hb
    exact occursFrom_of_symbol_at_start (List.prefix_append ..) fun hshares => hb hshares rfl
  | cons c s ih =>
    intro b _
    rw [List.cons_append, occursFrom_cons, Bool.or_eq_true]
    refine .inr (ih (fun hshares => ?_) _ fun hshares hs => ?_)
    · intro hlast
      exact h hshares (by rw [List.getLast?_cons, hlast]; rfl)
    · have hlast := h hshares
      rw [hs] at hlast
      simpa using hlast

end Operator

/-! ### Negations -/

/-- Where `!=` does not occur, every exclamation mark is a negation. -/
theorem hasNegation_eq_contains {b : Bool} (h : Operator.unequal.occursFrom b s = false) :
    hasNegation s = s.contains '!' := by
  induction s generalizing b with
  | nil => rfl
  | cons c s ih =>
    rw [Operator.occursFrom_cons, Bool.or_eq_false_iff] at h
    rw [hasNegation, ih h.2, List.contains_cons]
    by_cases hc : c = '!'
    -- With `=` after it the mark would be an occurrence of `!=`.
    · have hhead : s.head? ≠ some '=' := by
        intro hs
        obtain ⟨r, rfl⟩ := List.head?_eq_some_iff.mp hs
        rw [hc] at h
        exact absurd h.1 (by simp [Operator.symbol, Operator.sharesArrow])
      simp [hc, hhead]
    · rw [beq_false_of_ne hc, beq_false_of_ne (Ne.symm hc), Bool.false_and]

end WatchExpr
