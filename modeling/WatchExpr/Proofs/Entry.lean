import WatchExpr.Proofs.Batch
import WatchExpr.Proofs.Cell

/-!
# Entries of a report

A report on a batch can be read back.  The reader knows nothing but the text of the report: it
leaves out the first twelve lines, cuts each other line at its bare bars, takes off what stands
around the three cells, and the backslash before each bar in the first (`readReport`).  It finds the
entries of the items in their order, each with the expression as it is shown, the status and the
reason (`readRow_itemRow`), whatever text the expressions are.  So no expression makes a row that is
not its own, falls into two rows or keeps one from being seen, and batches with the same report show
the same expressions (`batch_entries`).
-/

namespace WatchExpr

namespace Batch

/-! ### The reader -/

/-- What a row of a report says of one expression. -/
structure Entry where
  expression : List Char
  status : List Char
  reason : List Char
  deriving DecidableEq, Repr

/-- What is to be said of an item. -/
def Entry.ofItem (item : List Char) : Entry where
  expression := trim item
  status := (classify (.text item)).status.toList
  reason := (classify (.text item)).reason.code.toList

/-- The text without the `n` characters at each of its two ends. -/
def peel (n : Nat) (s : List Char) : List Char := (s.drop n).rdrop n

/-- The entry that a row shows.  Each cell stands between two blanks; the expression is written as
code, and the status in strong type. -/
def readRow (row : List Char) : Option Entry :=
  match (Markdown.cut row).map (peel 1) with
  | [_, expression, status, reason, _] =>
    some ⟨Markdown.unescape (peel 1 expression), peel 2 status, reason⟩
  | _ => none

/-- The entries that a report shows. -/
def readReport (r : List Char) : List Entry := ((lines r).drop 12).filterMap readRow

theorem peel_append {n : Nat} {u v : List Char} (hu : u.length = n) (hv : v.length = n)
    (s : List Char) : peel n (u ++ (s ++ v)) = s := by
  rw [peel, List.drop_left' hu, List.rdrop, List.length_append, hv, Nat.add_sub_cancel,
    List.take_left' rfl]

theorem peel_code (s : List Char) : peel 1 (Markdown.code s) = s :=
  peel_append (u := ['\x60']) (v := ['\x60']) rfl rfl s

theorem peel_strong (s : List Char) : peel 2 (Markdown.strong s) = s := by
  rw [Markdown.strong, List.append_assoc]
  exact peel_append (u := ['*', '*']) (v := ['*', '*']) rfl rfl s

/-- A row of three cells without bare bars is read cell by cell. -/
theorem readRow_row {e s r : List Char} (h : ∀ x ∈ [e, s, r], Markdown.bareBarsFrom false x = 0) :
    readRow (Markdown.row [e, s, r]) = some ⟨Markdown.unescape (peel 1 e), peel 2 s, r⟩ := by
  have hblanks : ∀ x, peel 1 (' ' :: (x ++ [' '])) = x :=
    peel_append (u := [' ']) (v := [' ']) rfl rfl
  rw [readRow, Markdown.cut_row h]
  simp only [List.map_cons, List.map_nil, List.cons_append, List.nil_append, hblanks]

/-! ### The row of an item -/

/-- There is no bare bar in the three cells of an item. -/
theorem bareBarsFrom_of_mem_cells (item : List Char) :
    ∀ s ∈ [Markdown.code (Markdown.cell (trim item)),
      Markdown.strong (classify (.text item)).status.toList,
      (classify (.text item)).reason.code.toList], Markdown.bareBarsFrom false s = 0 := by
  have hstatus : ∀ b : Bool, Markdown.bareBarsFrom false
      (Markdown.strong (if b then "EDITABLE" else "NOT EDITABLE").toList) = 0 := by
    intro b
    cases b <;> decide
  have hreason : ∀ q : Reason, Markdown.bareBarsFrom false q.code.toList = 0 := by
    intro q
    cases q <;> decide
  refine List.forall_mem_cons.mpr ⟨Markdown.bareBarsFrom_code_cell _, ?_⟩
  exact List.forall_mem_cons.mpr ⟨hstatus _, List.forall_mem_singleton.mpr (hreason _)⟩

theorem bareBars_itemRow (item : List Char) : Markdown.bareBars (Summary.itemRow item) = 4 :=
  Markdown.bareBars_row (bareBarsFrom_of_mem_cells item)

/-- The entry of an item is read back from its row. -/
theorem readRow_itemRow {item : List Char} (h : isLine item = true) :
    readRow (Summary.itemRow item) = some (Entry.ofItem item) := by
  have hfeed : '\n' ∉ trim item := by
    intro hmem
    exact absurd (isLine_iff.mp (isLine_trim h) '\n' hmem) (by decide)
  have hread := readRow_row (bareBarsFrom_of_mem_cells item)
  rw [peel_code, peel_strong, Markdown.unescape_cell, Markdown.spaced_eq_self hfeed] at hread
  exact hread

/-! ### The report -/

/-- The items `l` are read back from the report `r`. -/
structure ReadsBack (l : List (List Char)) (r : List Char) : Prop where
  /-- There is one line for each item after twelve others. -/
  length_lines : (lines r).length = 12 + l.length
  /-- Each of these is a row of three cells. -/
  bareBars_row : ∀ row ∈ (lines r).drop 12, Markdown.bareBars row = 4
  entries_eq : readReport r = l.map Entry.ofItem

/-- The items are read back from the lines of their summary. -/
theorem readsBack_of_shows {l : List (List Char)} {r : List Char}
    (hl : ∀ item ∈ l, isLine item = true) (h : Shows r (Summary.ofItems l)) : ReadsBack l r := by
  have hrows : (lines r).drop 12 = l.map Summary.itemRow := by
    rw [h]
    rfl
  refine ⟨?_, ?_, ?_⟩
  · rw [h, Summary.reportLines, List.length_append, Summary.ofItems, List.length_map]
    rfl
  · intro row hrow
    rw [hrows] at hrow
    obtain ⟨item, -, rfl⟩ := List.mem_map.mp hrow
    exact bareBars_itemRow item
  · rw [readReport, hrows, List.filterMap_map, ← List.filterMap_eq_map]
    exact List.filterMap_congr fun item hitem => readRow_itemRow (hl item hitem)

/-- The report on between one and 500 items is there to be read back. -/
theorem readsBack_batchText {s : List Char} (hne : 1 ≤ (nonBlankLines s).length)
    (hmax : (nonBlankLines s).length ≤ 500) : ReadsBack (nonBlankLines s) (Report.batchText s) := by
  rw [nonBlankLines_eq_items] at hne hmax ⊢
  have hl : ∀ item ∈ items s, isLine item = true := fun item h => (mem_items_iff.mp h).1
  have hreports := reports_of_answer hl (answer_batchText s)
  exact readsBack_of_shows hl
    ((hreports.shows_iff _).mpr ⟨List.length_pos_iff.mp hne, hmax, rfl⟩)

end Batch

open Batch in
/-- Every report can be read back, and only batches that show the same expressions have the same
report. -/
theorem batch_entries :
    (∀ s : List Char, 1 ≤ (nonBlankLines s).length → (nonBlankLines s).length ≤ 500 →
        ∃ r, Report.batch (.text s) = .ok r ∧ ReadsBack (nonBlankLines s) r) ∧
      ∀ s₁ s₂ : List Char, 1 ≤ (nonBlankLines s₁).length → (nonBlankLines s₁).length ≤ 500 →
        1 ≤ (nonBlankLines s₂).length → (nonBlankLines s₂).length ≤ 500 →
        Report.batch (.text s₁) = Report.batch (.text s₂) →
        (nonBlankLines s₁).map trim = (nonBlankLines s₂).map trim := by
  refine ⟨fun s hne hmax => ⟨_, rfl, readsBack_batchText hne hmax⟩, ?_⟩
  intro s₁ s₂ hne₁ hmax₁ hne₂ hmax₂ hsame
  have hread₁ := (readsBack_batchText hne₁ hmax₁).entries_eq
  have hread₂ := (readsBack_batchText hne₂ hmax₂).entries_eq
  have hreport : Report.batchText s₁ = Report.batchText s₂ := Except.ok.inj hsame
  have hentries := (hreport ▸ hread₁).symm.trans hread₂
  -- The expression of an entry is the item as it is shown.
  simpa [Entry.ofItem, Function.comp_def] using congrArg (List.map Entry.expression) hentries

open Batch in
/-- Two lines that look like rows, one with the end of a row and another row in it and one that ends
in a backslash; and two texts with the same report. -/
theorem batch_entries_forged :
    (1 ≤ (nonBlankLines "a\x60 | **EDITABLE** | x |\r\n | b\\".toList).length ∧
      (nonBlankLines "a\x60 | **EDITABLE** | x |\r\n | b\\".toList).length ≤ 500 ∧
      ∃ r, Report.batch (.text "a\x60 | **EDITABLE** | x |\r\n | b\\".toList) = .ok r ∧
        (lines r).length = 14 ∧
        readReport r = [⟨"a\x60 | **EDITABLE** | x |".toList, "NOT EDITABLE".toList,
            "bitwise_or".toList⟩,
          ⟨"| b\\".toList, "NOT EDITABLE".toList, "bitwise_or".toList⟩]) ∧
      Report.batch (.text ['a']) = Report.batch (.text [' ', 'a', '\n']) ∧
      (nonBlankLines ['a']).map trim = (nonBlankLines [' ', 'a', '\n']).map trim := by
  have hne : 1 ≤ (nonBlankLines "a\x60 | **EDITABLE** | x |\r\n | b\\".toList).length := by decide
  have hmax : (nonBlankLines "a\x60 | **EDITABLE** | x |\r\n | b\\".toList).length ≤ 500 := by
    decide
  obtain ⟨r, hr, hread⟩ := batch_entries.1 _ hne hmax
  have hsame : Report.batch (.text ['a']) = Report.batch (.text [' ', 'a', '\n']) := by
    decide +kernel
  refine ⟨⟨hne, hmax, r, hr, ?_, ?_⟩, hsame, ?_⟩
  · rw [hread.length_lines]
    decide
  · rw [hread.entries_eq]
    decide
  · exact batch_entries.2 _ _ (by decide) (by decide) (by decide) (by decide) hsame

end WatchExpr
