import WatchExpr.Proofs.Cell
import WatchExpr.Proofs.Substitution
import WatchExpr.Report.Explanation

/-!
# What an explanation tells of its input

An explanation shows the whole input in a cell of a table, so the input is read back from it but for
its line feeds, which are written as spaces.  And this is all that is lost: no check tells a line
feed from a space, the parts of the verdict are the same with spaces for line feeds
(`ofText_spaced`), and they are shown in cells as well (`explanationLines_spaced`).  So two inputs
have the same explanation exactly when they differ in line feeds and spaces only
(`explain_eq_iff`).
-/

namespace WatchExpr

open Markdown (spaced spacedChar)

variable {c : Char} {s : List Char}

/-! ### Spaces for line feeds -/

theorem alike_spacedChar (c : Char) : Alike c (spacedChar c) := by
  unfold spacedChar
  split_ifs with h
  · rw [h]
    exact .blank (by decide) (by decide)
  · exact .same c

theorem forall₂_alike_spaced (s : List Char) : List.Forall₂ Alike s (spaced s) :=
  List.forall₂_map_right_iff.mpr (List.forall₂_same.mpr fun c _ => alike_spacedChar c)

theorem trimStart_spaced (s : List Char) : trimStart (spaced s) = spaced (trimStart s) := by
  have hblank : isBlank ∘ spacedChar = isBlank :=
    funext fun c => (alike_spacedChar c).isBlank_eq.symm
  rw [trimStart, spaced, List.dropWhile_map, hblank]
  rfl

theorem trim_spaced (s : List Char) : trim (spaced s) = spaced (trim s) := by
  have hreverse : ∀ t : List Char, (spaced t).reverse = spaced t.reverse := fun t =>
    List.map_reverse.symm
  rw [trim, trimStart_spaced, trimEnd_reverse, hreverse, trimStart_spaced, hreverse,
    ← trimEnd_reverse, ← trim]

/-- A line feed is no part of a display hint. -/
theorem splitSuffix_spaced (s : List Char) :
    splitSuffix (spaced s) = (spaced (splitSuffix s).1, (splitSuffix s).2) := by
  rcases splitSuffix_cases s with ⟨x, c, l, hc, rfl, hsplit⟩ | hsplit
  · have hfeed : c ≠ '\n' := by
      rintro rfl
      exact absurd (isWord_of_ofChar? hc) (by decide)
    have hend : spaced (x ++ [',', c]) = spaced x ++ [',', c] := by
      rw [spaced, List.map_append, List.map_cons, List.map_cons,
        Markdown.spacedChar_of_ne hfeed]
      rfl
    rw [hend, splitSuffix_append _ hc, hsplit]
  · have hnone : (splitSuffix (spaced s)).2 = none := by
      rw [← (forall₂_alike_splitSuffix (forall₂_alike_spaced s)).2, hsplit]
    rw [hsplit]
    exact Prod.ext (splitSuffix_fst_of_snd hnone) hnone

theorem shown_spacedChar (n : Nat) (c : Char) :
    Subscript.shown n (spacedChar c) = spaced (Subscript.shown n c) := by
  by_cases hfeed : c = '\n'
  · subst hfeed
    cases n <;> rfl
  · have hnotMem : '\n' ∉ Subscript.shown n c := by
      unfold Subscript.shown
      split_ifs
      · decide
      · decide
      · decide
      · simpa using Ne.symm hfeed
      · decide
    rw [Markdown.spacedChar_of_ne hfeed, Markdown.spaced_eq_self hnotMem]

theorem maskFrom_spaced (n : Nat) (s : List Char) :
    Subscript.maskFrom n (spaced s) = spaced (Subscript.maskFrom n s) := by
  induction s generalizing n with
  | nil => rfl
  | cons c s ih =>
    have hnest : Subscript.nest n (spacedChar c) = Subscript.nest n c := by
      simp only [Subscript.nest, (alike_spacedChar c).eq_iff (k := '[') (by decide),
        (alike_spacedChar c).eq_iff (k := ']') (by decide)]
    rw [spaced, List.map_cons, Subscript.maskFrom_cons, hnest, shown_spacedChar, ← spaced, ih,
      Subscript.maskFrom_cons, spaced, spaced, spaced, List.map_append]

/-! ### The verdict -/

/-- The verdict with spaces for the line feeds in its texts. -/
def Verdict.spaced (v : Verdict) : Verdict :=
  { v with
    expression := Markdown.spaced v.expression
    base := Markdown.spaced v.base
    masked := v.masked.map Markdown.spaced }

theorem judge_spaced (s : List Char) :
    Verdict.judge (spaced s) = ((Verdict.judge s).1.map spaced, (Verdict.judge s).2) := by
  have halike := forall₂_alike_spaced s
  have hmask : Subscript.mask (spaced s) = spaced (Subscript.mask s) := maskFrom_spaced 0 s
  have hoperator : operatorRefusal? (spaced (Subscript.mask s))
      = operatorRefusal? (Subscript.mask s) :=
    (operatorRefusal?_eq_of_forall₂ (forall₂_alike_spaced _)).symm
  rw [Verdict.judge_eq, Verdict.judge_eq, ← isEmpty_eq_of_forall₂ halike,
    ← formRefusal?_eq_of_forall₂ halike, hmask]
  split_ifs
  · rfl
  · cases formRefusal? s with
    | some r => rfl
    | none => exact Prod.ext rfl (congrArg (Option.getD · .lvalue) hoperator)

theorem ofText_spaced (s : List Char) : Verdict.ofText (spaced s) = (Verdict.ofText s).spaced := by
  have hbase : stripSuffix (spaced s) = spaced (stripSuffix s) := by
    rw [stripSuffix, splitSuffix_spaced, trim_spaced, stripSuffix]
  rw [Verdict.ofText, Verdict.ofText, hbase, splitSuffix_spaced, judge_spaced]
  rfl

/-! ### The explanation -/

namespace Report

theorem codeCell_spaced (s : List Char) : codeCell (spaced s) = codeCell s :=
  congrArg Markdown.code (Markdown.cell_spaced s)

/-- Line feeds are written as the spaces that can stand for them. -/
theorem explanationLines_spaced (v : Verdict) : explanationLines v.spaced = explanationLines v := by
  have hmasked : (v.masked.map spaced).elim Markdown.dash codeCell
      = v.masked.elim Markdown.dash codeCell := by
    cases v.masked with
    | none => rfl
    | some m => exact codeCell_spaced m
  have hrows : explanationRows v.spaced = explanationRows v := by
    unfold explanationRows Verdict.spaced
    rw [codeCell_spaced, codeCell_spaced, hmasked]
    rfl
  rw [explanationLines, hrows]
  rfl

/-! ### No line feeds in the lines -/

/-- The characters that lay a table out: the two that end a line, and the bar between cells. -/
def layoutMarks : List Char := ['\n', '\r', '|']

/-- A text without such characters, told from each of them. -/
theorem notMem_of_mem_layoutMarks (hfeed : '\n' ∉ s) (hreturn : '\r' ∉ s) (hbar : '|' ∉ s)
    (hc : c ∈ layoutMarks) : c ∉ s := by
  simp only [layoutMarks, List.mem_cons, List.not_mem_nil, or_false] at hc
  rcases hc with rfl | rfl | rfl
  · exact hfeed
  · exact hreturn
  · exact hbar

theorem notMem_code (hc : c ∈ layoutMarks) (r : Reason) : c ∉ r.code.toList := by
  refine notMem_of_mem_layoutMarks ?_ ?_ ?_ hc <;> cases r <;>
    exact Markdown.notMem_toList (by decide)

theorem notMem_detail (hc : c ∈ layoutMarks) (r : Reason) : c ∉ r.detail.toList := by
  refine notMem_of_mem_layoutMarks ?_ ?_ ?_ hc <;> cases r <;>
    exact Markdown.notMem_toList (by decide)

theorem notMem_status (hc : c ∈ layoutMarks) (v : Verdict) : c ∉ v.status.toList := by
  unfold Verdict.status
  refine notMem_of_mem_layoutMarks ?_ ?_ ?_ hc <;> split_ifs <;>
    exact Markdown.notMem_toList (by decide)

theorem notMem_heading (hc : c ∈ layoutMarks) (v : Verdict) :
    c ∉ Markdown.heading 2 ("Editability — ".toList ++ v.status.toList) := by
  have hstatus := notMem_status hc v
  simp only [layoutMarks, List.mem_cons, List.not_mem_nil, or_false] at hc
  rcases hc with rfl | rfl | rfl <;> simp [Markdown.heading, hstatus]

theorem notMem_reasonCell (hc : c ∈ layoutMarks) (r : Reason) :
    c ∉ Markdown.code r.code.toList := by
  have hcode := notMem_code hc r
  simp only [layoutMarks, List.mem_cons, List.not_mem_nil, or_false] at hc
  rcases hc with rfl | rfl | rfl <;> simp [Markdown.code, hcode]

theorem notMem_letter (hc : c ∈ layoutMarks) (v : Verdict) :
    c ∉ v.letter.elim Markdown.dash fun l => [l.toChar] := by
  refine notMem_of_mem_layoutMarks ?_ ?_ ?_ hc <;> rcases v.letter with _ | l <;>
    first | decide | cases l <;> decide

theorem notMem_displayFormat (hc : c ∈ layoutMarks) (v : Verdict) :
    c ∉ v.displayFormat.elim Markdown.dash fun f => f.name.toList := by
  refine notMem_of_mem_layoutMarks ?_ ?_ ?_ hc <;> rcases v.displayFormat with _ | f <;>
    first | decide | cases f <;> decide

theorem newline_notMem_codeCell (s : List Char) : '\n' ∉ codeCell s := by
  simp [codeCell, Markdown.code, Markdown.newline_notMem_cell]

/-- No line of an explanation has a line feed in it. -/
theorem newline_notMem_explanationLines (v : Verdict) : ∀ l ∈ explanationLines v, '\n' ∉ l := by
  have hrow : ∀ title value : List Char, '\n' ∉ title → '\n' ∉ value →
      '\n' ∉ Markdown.row [title, value] := fun title value htitle hvalue =>
    Markdown.newline_notMem_row
      (List.forall_mem_cons.mpr ⟨htitle, List.forall_mem_singleton.mpr hvalue⟩)
  have hfeed : '\n' ∈ layoutMarks := by decide
  have hmasked : '\n' ∉ v.masked.elim Markdown.dash codeCell := by
    rcases v.masked with _ | m
    · decide
    · exact newline_notMem_codeCell m
  simp only [explanationLines, Markdown.table, explanationRows, List.map_cons, List.map_nil,
    List.cons_append, List.nil_append, List.forall_mem_cons]
  refine ⟨notMem_heading hfeed v, by decide, by decide, by decide, ?_⟩
  exact ⟨hrow _ _ (by decide) (newline_notMem_codeCell _),
    hrow _ _ (by decide) (newline_notMem_codeCell _), hrow _ _ (by decide) (notMem_letter hfeed v),
    hrow _ _ (by decide) (notMem_displayFormat hfeed v), hrow _ _ (by decide) hmasked,
    hrow _ _ (by decide) (notMem_reasonCell hfeed v.reason), by decide,
    notMem_detail hfeed v.reason, List.forall_mem_nil _⟩

/-! ### What is read off the lines -/

/-- The expression is read off the explanation, but for its line feeds. -/
theorem spaced_expression_eq {v₁ v₂ : Verdict} (h : explanationLines v₁ = explanationLines v₂) :
    spaced v₁.expression = spaced v₂.expression := by
  -- It stands in the fifth line, in the first row below the titles of the table.
  have hrow : Markdown.row [Markdown.strong "Expression".toList, codeCell v₁.expression]
      = Markdown.row [Markdown.strong "Expression".toList, codeCell v₂.expression] :=
    Option.some.inj (congrArg (fun ls => ls[4]?) h)
  have hcode := Markdown.row_pair_injective _ hrow
  rw [codeCell, codeCell, Markdown.code, Markdown.code, List.cons.injEq] at hcode
  exact Markdown.cell_eq_iff.mp (List.append_cancel_right hcode.2)

/-- Two inputs have the same explanation exactly when they differ in line feeds and spaces only. -/
theorem explain_eq_iff (e₁ e₂ : List Char) :
    explain (.text e₁) = explain (.text e₂) ↔ spaced e₁ = spaced e₂ := by
  have hspaced : ∀ e, explain (.text e) = explain (.text (spaced e)) := by
    intro e
    show _ = Markdown.ofLines (explanationLines (Verdict.ofText (spaced e)))
    rw [ofText_spaced, explanationLines_spaced]
    rfl
  constructor
  · intro h
    exact spaced_expression_eq (Markdown.ofLines_inj (newline_notMem_explanationLines _)
      (newline_notMem_explanationLines _) h)
  · intro h
    rw [hspaced e₁, h, ← hspaced e₂]

end Report

end WatchExpr
