import Mathlib.Algebra.Order.Ring.Nat
import WatchExpr.Proofs.Consistency
import WatchExpr.Proofs.Explanation

/-!
# Whether the table of an explanation is intact

A reader of Markdown ends a line at a line feed, at a carriage return, and at the two together.
What was written as lines without line feeds is read as the pieces between their carriage returns
(`readLines_ofLines`), so that there is one line more for each of these.

A cell has no line feed, but it keeps the carriage returns of its text.  So an explanation has its
twelve lines exactly when there is no carriage return in the input: the base and the masked view
have none that the input does not have (`explain_intact_iff`).  The bars do no harm in any case.
-/

namespace WatchExpr

variable {c : Char} {l s t : List Char} {ls : List (List Char)}

/-- A text falls into one piece more than it has separators. -/
theorem length_splitOnP (p : Char → Bool) (s : List Char) :
    (s.splitOnP p).length = s.countP p + 1 := by
  induction s with
  | nil => rfl
  | cons c s ih =>
    rw [List.splitOnP_cons_eq_if_modifyHead, List.countP_cons]
    split_ifs with hc
    · rw [List.length_cons, ih]
    · rw [List.length_modifyHead, ih]

namespace Markdown

/-! ### The lines that a reader sees -/

/-- The lines of a text as Markdown is read: a line ends at a line feed, at a carriage return, or at
the two together, and the end of the last line begins no other one. -/
def readLines : List Char → List (List Char)
  | [] => []
  | '\r' :: '\n' :: rest => [] :: readLines rest
  | c :: rest => if c = '\n' ∨ c = '\r' then [] :: readLines rest else consLine c (readLines rest)

theorem readLines_feed_cons (s : List Char) : readLines ('\n' :: s) = [] :: readLines s := by
  rw [readLines, if_pos (.inl rfl)]
  exact fun rest h => absurd h (by decide)

theorem readLines_return_cons (hc : c ≠ '\n') (s : List Char) :
    readLines ('\r' :: c :: s) = [] :: readLines (c :: s) := by
  rw [readLines, if_pos (.inr rfl)]
  rintro rest - h
  exact hc (List.cons.inj h).1

theorem readLines_cons (hc : c ≠ '\n') (hreturn : c ≠ '\r') (s : List Char) :
    readLines (c :: s) = consLine c (readLines s) := by
  rw [readLines, if_neg (not_or.mpr ⟨hc, hreturn⟩)]
  exact fun rest h => absurd h hreturn

/-- No line that is read has a carriage return in it. -/
theorem return_notMem_readLines (s : List Char) : ∀ l ∈ readLines s, '\r' ∉ l := by
  fun_induction readLines s with
  | case1 => exact List.forall_mem_nil _
  | case2 rest ih => exact List.forall_mem_cons.mpr ⟨List.not_mem_nil, ih⟩
  | case3 c rest hpair hend ih => exact List.forall_mem_cons.mpr ⟨List.not_mem_nil, ih⟩
  | case4 c rest hpair hend ih =>
    have hc : '\r' ≠ c := fun h => hend (.inr h.symm)
    cases hlines : readLines rest with
    | nil => exact List.forall_mem_singleton.mpr (by simpa using hc)
    | cons line lines =>
      rw [hlines, List.forall_mem_cons] at ih
      exact List.forall_mem_cons.mpr ⟨by simpa using ⟨hc, ih.1⟩, ih.2⟩

/-- What is written as one line is read as the pieces between its carriage returns. -/
theorem readLines_append_feed (hfeed : '\n' ∉ l) (hlast : l.getLast? ≠ some '\r')
    (t : List Char) :
    readLines (l ++ '\n' :: t) = l.splitOnP (· == '\r') ++ readLines t := by
  induction l with
  | nil => exact readLines_feed_cons t
  | cons c l ih =>
    rw [List.mem_cons, not_or] at hfeed
    rw [List.splitOnP_cons_eq_if_modifyHead]
    by_cases hc : c = '\r'
    · subst hc
      cases l with
      | nil => exact absurd rfl hlast
      | cons d l =>
        rw [List.getLast?_cons_cons] at hlast
        have hd : d ≠ '\n' := fun h => hfeed.2 (h ▸ List.mem_cons_self ..)
        rw [List.cons_append, List.cons_append, readLines_return_cons hd, ← List.cons_append,
          ih hfeed.2 hlast]
        rfl
    · have hlast' : l.getLast? ≠ some '\r' := by
        intro h
        rw [List.getLast?_cons, h] at hlast
        exact hlast rfl
      obtain ⟨x, rest, hsplit⟩ := List.exists_cons_of_ne_nil (List.splitOnP_ne_nil (· == '\r') l)
      rw [List.cons_append, readLines_cons (Ne.symm hfeed.1) hc, ih hfeed.2 hlast', hsplit,
        if_neg (by simpa using hc)]
      rfl

theorem readLines_ofLines (h : ∀ l ∈ ls, '\n' ∉ l ∧ l.getLast? ≠ some '\r') :
    readLines (ofLines ls) = ls.flatMap fun l => l.splitOnP (· == '\r') := by
  induction ls with
  | nil => rfl
  | cons l ls ih =>
    obtain ⟨⟨hfeed, hlast⟩, hls⟩ := List.forall_mem_cons.mp h
    rw [ofLines_cons, readLines_append_feed hfeed hlast, ih hls]
    rfl

/-- There is a line for each that was written, and one more for each carriage return. -/
theorem length_readLines_ofLines (h : ∀ l ∈ ls, '\n' ∉ l ∧ l.getLast? ≠ some '\r') :
    (readLines (ofLines ls)).length = ls.length + (ls.map (List.count '\r')).sum := by
  induction ls with
  | nil => rfl
  | cons l ls ih =>
    obtain ⟨⟨hfeed, hlast⟩, hls⟩ := List.forall_mem_cons.mp h
    rw [ofLines_cons, readLines_append_feed hfeed hlast, List.length_append, length_splitOnP,
      ih hls, List.map_cons, List.sum_cons, List.length_cons, List.count_eq_countP]
    omega

theorem splitOnP_return (h : '\r' ∉ l) : l.splitOnP (· == '\r') = [l] :=
  List.splitOnP_eq_singleton fun _ hc => beq_false_of_ne (ne_of_mem_of_not_mem hc h)

/-- A line that was written is read as one line when there is no carriage return in it. -/
theorem mem_readLines_ofLines (h : ∀ l ∈ ls, '\n' ∉ l ∧ l.getLast? ≠ some '\r') (hl : l ∈ ls) :
    l ∈ readLines (ofLines ls) ↔ '\r' ∉ l := by
  refine ⟨return_notMem_readLines _ l, fun hreturn => ?_⟩
  rw [readLines_ofLines h, List.mem_flatMap]
  exact ⟨l, hl, by rw [splitOnP_return hreturn]; exact List.mem_singleton_self l⟩

/-- Lines are read back as they were written when there is no carriage return in them. -/
theorem readLines_ofLines_eq_iff (h : ∀ l ∈ ls, '\n' ∉ l ∧ l.getLast? ≠ some '\r') :
    readLines (ofLines ls) = ls ↔ ∀ l ∈ ls, '\r' ∉ l := by
  constructor
  · intro hread
    rw [← hread]
    exact return_notMem_readLines _
  · intro hreturn
    rw [readLines_ofLines h, List.flatMap_congr fun l hl => splitOnP_return (hreturn l hl)]
    exact List.flatMap_singleton' ls

/-! ### Carriage returns in cells -/

theorem count_return_cell (s : List Char) : (cell s).count '\r' = s.count '\r' := by
  induction s with
  | nil => rfl
  | cons c s ih =>
    rw [cell_cons, List.count_append, ih, List.count_cons, Nat.add_comm, cellChar]
    split_ifs <;> simp_all

theorem count_return_row_pair (title s : List Char) :
    (row [title, s]).count '\r' = title.count '\r' + s.count '\r' := by
  simp [row]

/-- A row ends in the bar after its last cell. -/
theorem getLast?_row (cells : List (List Char)) : (row cells).getLast? = some '|' := by
  rcases List.eq_nil_or_concat cells with rfl | ⟨cells, s, rfl⟩
  · rfl
  · have hrow : row (cells ++ [s]) = row cells ++ ' ' :: s ++ [' ', '|'] := by simp [row]
    rw [List.concat_eq_append, hrow, List.getLast?_append]
    rfl

end Markdown

/-! ### Carriage returns in the parts of a verdict -/

theorem mem_of_mem_stripSuffix (h : c ∈ stripSuffix s) : c ∈ s := by
  obtain ⟨u, v, -, -, htrim⟩ := exists_blanks_trim (splitSuffix s).1
  have hfst : c ∈ (splitSuffix s).1 := by
    rw [htrim]
    exact List.mem_append_right _ (List.mem_append_left _ h)
  rcases splitSuffix_fst_cases s with hs | ⟨d, -, hs⟩
  · rwa [hs] at hfst
  · rw [hs]
    exact List.mem_append_left _ hfst

theorem mem_of_mem_maskFrom {n : Nat} (hc : c ≠ Subscript.placeholder)
    (h : c ∈ Subscript.maskFrom n s) : c ∈ s := by
  induction s generalizing n with
  | nil => exact h
  | cons d s ih =>
    rw [Subscript.maskFrom_cons, List.mem_append] at h
    rcases h with h | h
    · refine List.mem_cons.mpr (.inl ?_)
      unfold Subscript.shown at h
      split_ifs at h <;> simp_all
    · exact List.mem_cons_of_mem d (ih h)

/-- The judgment of a base leaves its masked view or none. -/
theorem masked_ofText (s : List Char) :
    (Verdict.ofText s).masked = none ∨
      (Verdict.ofText s).masked = some (Subscript.mask (Verdict.ofText s).base) := by
  show (Verdict.judge (stripSuffix s)).1 = none ∨
    (Verdict.judge (stripSuffix s)).1 = some (Subscript.mask (stripSuffix s))
  generalize hjudge : Verdict.judge (stripSuffix s) = j
  have hjudgment := judgment_judge (stripSuffix s)
  rw [hjudge] at hjudgment
  cases hjudgment with
  | empty h => exact .inl rfl
  | form h r hr => exact .inl rfl
  | operators h hform => exact .inr rfl

/-- A carriage return is in none of the texts of a verdict when the input has none. -/
theorem count_return_parts (h : '\r' ∉ s) :
    (Verdict.ofText s).base.count '\r' = 0 ∧
      ((Verdict.ofText s).masked.getD []).count '\r' = 0 := by
  have hbase : '\r' ∉ (Verdict.ofText s).base := mt mem_of_mem_stripSuffix h
  refine ⟨List.count_eq_zero.mpr hbase, ?_⟩
  rcases masked_ofText s with hmasked | hmasked
  · rw [hmasked]
    rfl
  · rw [hmasked]
    exact List.count_eq_zero.mpr (mt (mem_of_mem_maskFrom (by decide)) hbase)

namespace Report

open Markdown (readLines row bareBars)

variable (v : Verdict) (e : List Char)

/-! ### The lines of an explanation -/

theorem count_return_codeCell (s : List Char) : (codeCell s).count '\r' = s.count '\r' := by
  simp [codeCell, Markdown.code, Markdown.count_return_cell]

/-- The first two rows and the fifth have the carriage returns of the texts in them, and the others
have none. -/
theorem count_return_explanationRows :
    ((explanationRows v).map fun cells => (row cells).count '\r')
      = [v.expression.count '\r', v.base.count '\r', 0, 0, (v.masked.getD []).count '\r', 0] := by
  have hreturn : '\r' ∈ layoutMarks := by decide
  have hrow : ∀ title value : List Char, '\r' ∉ title →
      (row [title, value]).count '\r' = value.count '\r' := by
    intro title value htitle
    rw [Markdown.count_return_row_pair, List.count_eq_zero.mpr htitle, Nat.zero_add]
  have hmasked : (v.masked.elim Markdown.dash codeCell).count '\r'
      = (v.masked.getD []).count '\r' := by
    rcases v.masked with _ | m
    · decide
    · exact count_return_codeCell m
  simp only [explanationRows, List.map_cons, List.map_nil]
  rw [hrow _ _ (by decide), hrow _ _ (by decide), hrow _ _ (by decide), hrow _ _ (by decide),
    hrow _ _ (by decide), hrow _ _ (by decide), count_return_codeCell, count_return_codeCell,
    hmasked, List.count_eq_zero.mpr (notMem_letter hreturn v),
    List.count_eq_zero.mpr (notMem_displayFormat hreturn v),
    List.count_eq_zero.mpr (notMem_reasonCell hreturn v.reason)]

/-- The carriage returns of an explanation are those in the three texts that it quotes. -/
theorem sum_count_return_explanationLines :
    ((explanationLines v).map (List.count '\r')).sum
      = v.expression.count '\r' + (v.base.count '\r' + (v.masked.getD []).count '\r') := by
  have hreturn : '\r' ∈ layoutMarks := by decide
  have hheading := List.count_eq_zero.mpr (notMem_heading hreturn v)
  have hdetail : v.detail.toList.count '\r' = 0 := List.count_eq_zero.mpr (notMem_detail hreturn _)
  have hfixed : (row ["Field".toList, "Value".toList]).count '\r' = 0 ∧
      (Markdown.ruler ["Field".toList, "Value".toList]).count '\r' = 0 := by decide
  simp only [explanationLines, Markdown.table, List.map_cons, List.map_append, List.map_map,
    List.map_nil, List.cons_append, List.nil_append, List.sum_cons, List.sum_nil,
    Function.comp_def, List.count_nil, hheading, hfixed, count_return_explanationRows, hdetail]
  omega

/-- No line of an explanation ends in a carriage return, which would make a pair with the line feed
after it. -/
theorem getLast?_explanationLines_ne : ∀ l ∈ explanationLines v, l.getLast? ≠ some '\r' := by
  have hreturn : '\r' ∈ layoutMarks := by decide
  have hnotMem : ∀ l : List Char, '\r' ∉ l → l.getLast? ≠ some '\r' := fun _ =>
    mt List.mem_of_getLast?
  have hrow : ∀ cells, (row cells).getLast? ≠ some '\r' := by
    intro cells
    rw [Markdown.getLast?_row]
    decide
  simp only [explanationLines, Markdown.table, List.cons_append, List.nil_append,
    List.forall_mem_cons, List.forall_mem_append]
  refine ⟨hnotMem _ (notMem_heading hreturn v), by decide, hrow _, by decide, ?_, by decide,
    hnotMem _ (notMem_detail hreturn _), List.forall_mem_nil _⟩
  exact List.forall_mem_map.mpr fun cells _ => hrow cells

theorem readable_explanationLines :
    ∀ l ∈ explanationLines v, '\n' ∉ l ∧ l.getLast? ≠ some '\r' := fun l hl =>
  ⟨newline_notMem_explanationLines v l hl, getLast?_explanationLines_ne v l hl⟩

theorem length_explanationLines : (explanationLines v).length = 12 := rfl

theorem explain_text :
    explain (.text e) = Markdown.ofLines (explanationLines (classify (.text e))) := rfl

/-- An explanation has twelve lines, and one more for each carriage return in the input, in its base
and in its masked view. -/
theorem length_readLines_explain :
    (readLines (explain (.text e))).length
      = 12 + ((classify (.text e)).expression.count '\r' + ((classify (.text e)).base.count '\r'
        + ((classify (.text e)).masked.getD []).count '\r')) := by
  rw [explain_text, Markdown.length_readLines_ofLines (readable_explanationLines _),
    length_explanationLines, sum_count_return_explanationLines]

theorem sum_count_return_eq_zero_iff :
    (classify (.text e)).expression.count '\r' + ((classify (.text e)).base.count '\r'
      + ((classify (.text e)).masked.getD []).count '\r') = 0 ↔ '\r' ∉ e := by
  rw [Nat.add_eq_zero_iff, Nat.add_eq_zero_iff, ← List.count_eq_zero]
  exact ⟨And.left, fun h => ⟨h, count_return_parts (List.count_eq_zero.mp h)⟩⟩

/-- No cell of the table has a bare bar, so the bare bars of a row are those around its two. -/
theorem bareBars_of_mem_explanationRows :
    ∀ cells ∈ explanationRows v, bareBars (row cells) = 3 := by
  have hbar : '|' ∈ layoutMarks := by decide
  have hplain : ∀ s : List Char, '|' ∉ s → Markdown.bareBarsFrom false s = 0 := fun _ hs =>
    Markdown.bareBarsFrom_append_of_notMem hs false []
  have hrow : ∀ title value : List Char, '|' ∉ title → Markdown.bareBarsFrom false value = 0 →
      bareBars (row [title, value]) = 3 := by
    intro title value htitle hvalue
    exact Markdown.bareBars_row
      (List.forall_mem_cons.mpr ⟨hplain title htitle, List.forall_mem_singleton.mpr hvalue⟩)
  have hmasked : Markdown.bareBarsFrom false (v.masked.elim Markdown.dash codeCell) = 0 := by
    rcases v.masked with _ | m
    · decide
    · exact Markdown.bareBarsFrom_code_cell m
  simp only [explanationRows, List.forall_mem_cons]
  exact ⟨hrow _ _ (by decide) (Markdown.bareBarsFrom_code_cell _),
    hrow _ _ (by decide) (Markdown.bareBarsFrom_code_cell _),
    hrow _ _ (by decide) (hplain _ (notMem_letter hbar v)),
    hrow _ _ (by decide) (hplain _ (notMem_displayFormat hbar v)), hrow _ _ (by decide) hmasked,
    hrow _ _ (by decide) (hplain _ (notMem_reasonCell hbar v.reason)), List.forall_mem_nil _⟩

/-- Each row of the table is a line of the explanation. -/
theorem row_mem_explanationLines {cells : List (List Char)} (h : cells ∈ explanationRows v) :
    row cells ∈ explanationLines v :=
  List.mem_append_left _ (List.mem_append_right _
    (List.mem_cons_of_mem _ (List.mem_cons_of_mem _ (List.mem_map_of_mem h))))

/-- The table of an explanation is intact exactly when there is no carriage return in the input.
Each row has three bare bars in any case, but a carriage return in it ends its line. -/
theorem explain_intact_iff (e : List Char) :
    ((readLines (explain (.text e))).length = 12 ↔ '\r' ∉ e) ∧
      (readLines (explain (.text e)) = explanationLines (classify (.text e)) ↔ '\r' ∉ e) ∧
      (explanationRows (classify (.text e))).length = 6 ∧
      ∀ cells ∈ explanationRows (classify (.text e)), bareBars (row cells) = 3 ∧
        (row cells ∈ readLines (explain (.text e)) ↔ '\r' ∉ row cells) := by
  have hreadable := readable_explanationLines (classify (.text e))
  refine ⟨?_, ?_, rfl, fun cells hcells => ⟨bareBars_of_mem_explanationRows _ cells hcells, ?_⟩⟩
  · rw [length_readLines_explain, Nat.add_eq_left, sum_count_return_eq_zero_iff]
  · rw [explain_text, Markdown.readLines_ofLines_eq_iff hreadable, ← sum_count_return_eq_zero_iff,
      ← sum_count_return_explanationLines, List.sum_eq_zero_iff_forall_eq_nat, List.forall_mem_map]
    exact forall₂_congr fun l _ => List.count_eq_zero.symm
  · exact Markdown.mem_readLines_ofLines hreadable (row_mem_explanationLines _ hcells)

/-- A carriage return in a name: `a\rb` has an explanation of fifteen lines. -/
theorem explain_return_not_intact :
    ¬ ∀ e : List Char, (readLines (explain (.text e))).length = 12 ∧
      ∀ cells ∈ explanationRows (classify (.text e)), bareBars (row cells) = 3 ∧
        row cells ∈ readLines (explain (.text e)) := by
  intro h
  have hlength := (h ['a', '\r', 'b']).1
  rw [length_readLines_explain] at hlength
  exact absurd hlength (by decide)

end Report

end WatchExpr
