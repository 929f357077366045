import WatchExpr.Proofs.Line
import WatchExpr.Report.Batch

/-!
# What the answer to a batch says

The answer to a batch is one of three texts, and which one it is depends on the number of items
alone: there is none of them (`noneText`), there are more than 500 (`tooManyText`), or the report
has three counts and one row for each item (`Summary`).  No text is an answer of two kinds, and no
report shows two summaries (`Shows.unique`), so that the answer tells the number of the items in the
second case, and in the third the counts and the rows (`Reports`).

What a report shows is read off its lines, as a user of the tool would do it.  The items of a text
are those before and those after a line break, so the summaries of two texts add up to the one of
the two texts with a line feed between them (`batch_reports_items`).
-/

namespace WatchExpr

namespace Batch

variable {l : List (List Char)} {r : List Char}

/-! ### Answers -/

/-- The answer to a text without items. -/
def noneText : List Char :=
  "Error: No expressions given. Pass one watch expression per line.".toList

/-- The answer to a text with `n` items, which are too many. -/
def tooManyText (n : Nat) : List Char :=
  "Error: ".toList
    ++ (natText n ++ " expressions given; at most 500 are accepted per call.".toList)

/-- What there is to read in a report. -/
structure Summary where
  total : Nat
  editable : Nat
  notEditable : Nat
  /-- The rows with the details. -/
  rows : List (List Char)
  deriving DecidableEq, Repr

namespace Summary

/-- The lines of a report. -/
def reportLines (m : Summary) : List (List Char) :=
  ["## Watch Editability".toList, [],
    "| Metric | Count |".toList, "|--------|-------|".toList,
    Markdown.row ["Total expressions".toList, natText m.total],
    Markdown.row ["Editable".toList, natText m.editable],
    Markdown.row ["Not editable".toList, natText m.notEditable], [],
    "### Details".toList, [],
    "| Expression | Status | Reason |".toList, "|------------|--------|--------|".toList]
    ++ m.rows

/-- The row for an item: the item is shown without the blanks at its ends, and judged with them. -/
def itemRow (item : List Char) : List Char :=
  Markdown.row
    [Markdown.code (Markdown.cell (trim item)),
      Markdown.strong (if isEditable (.text item) then "EDITABLE" else "NOT EDITABLE").toList,
      (classify (.text item)).reason.code.toList]

/-- What is to be said of a list of items. -/
def ofItems (l : List (List Char)) : Summary where
  total := l.length
  editable := l.countP fun item => isEditable (.text item)
  notEditable := l.countP fun item => !isEditable (.text item)
  rows := l.map itemRow

/-- One summary after another. -/
def append (m₁ m₂ : Summary) : Summary where
  total := m₁.total + m₂.total
  editable := m₁.editable + m₂.editable
  notEditable := m₁.notEditable + m₂.notEditable
  rows := m₁.rows ++ m₂.rows

theorem ofItems_append (l₁ l₂ : List (List Char)) :
    ofItems (l₁ ++ l₂) = (ofItems l₁).append (ofItems l₂) := by
  simp [ofItems, append]

end Summary

/-- The text shows the summary: a report falls into the lines of this summary. -/
def Shows (r : List Char) (m : Summary) : Prop := lines r = m.reportLines

/-- The answer `r` says of the items `l` what is to be said of them, and nothing else. -/
structure Reports (l : List (List Char)) (r : List Char) : Prop where
  noneText_iff : r = noneText ↔ l = []
  tooManyText_iff : ∀ n, r = tooManyText n ↔ 500 < l.length ∧ n = l.length
  shows_iff : ∀ m, Shows r m ↔ l ≠ [] ∧ l.length ≤ 500 ∧ m = Summary.ofItems l
  /-- There is nothing in the report but the lines of the summary. -/
  ofLines_eq : l ≠ [] → l.length ≤ 500 → r = Markdown.ofLines (Summary.ofItems l).reportLines

/-! ### What is read in an answer -/

theorem natText_injective : Function.Injective natText := by
  intro a b h
  have hread := congrArg (fun digits => Nat.ofDigitChars 10 digits 0) h
  simpa [natText] using hread

/-- A number is read off a text at a place where it is known to stand. -/
theorem append_natText_injective (s t : List Char) :
    Function.Injective fun n => s ++ (natText n ++ t) := fun _ _ h =>
  natText_injective (List.append_cancel_right (List.append_cancel_left h))

/-- No other character is the first one of a number. -/
theorem natText_append_ne {c : Char} (hc : c.isDigit = false) (n : Nat) (s t : List Char) :
    natText n ++ s ≠ c :: t := by
  intro h
  obtain ⟨d, digits, hdigits, hd⟩ := exists_natText_eq_cons n
  rw [hdigits, List.cons_append] at h
  rw [List.head_eq_of_cons_eq h, hc] at hd
  exact Bool.false_ne_true hd

theorem tooManyText_injective : Function.Injective tooManyText := append_natText_injective _ _

/-- The one error goes on with a number where the other one has a letter. -/
theorem noneText_ne_tooManyText (n : Nat) : noneText ≠ tooManyText n := by
  intro h
  have hnone : noneText = "Error: ".toList
      ++ 'N' :: "o expressions given. Pass one watch expression per line.".toList := by decide
  rw [hnone] at h
  exact natText_append_ne (by decide) n _ _ (List.append_cancel_left h).symm

theorem isLine_noneText : isLine noneText = true := by decide

theorem isLine_tooManyText (n : Nat) : isLine (tooManyText n) = true :=
  isLine_append.mpr ⟨by decide, isLine_append.mpr ⟨isLine_natText n, by decide⟩⟩

/-- A report has more than one line. -/
theorem not_shows_of_isLine (hr : isLine r = true) (m : Summary) : ¬ Shows r m := by
  intro h
  have hlong : 12 ≤ (lines r).length := by
    rw [h, Summary.reportLines, List.length_append]
    exact Nat.le_add_right ..
  cases r with
  | nil =>
    rw [lines_nil] at hlong
    exact absurd hlong (by decide)
  | cons c r =>
    rw [lines_of_isLine hr (List.cons_ne_nil _ _)] at hlong
    exact absurd hlong (by simp)

/-- A row with a number is told by the number. -/
theorem countRow_injective (title : List Char) :
    Function.Injective fun n => Markdown.row [title, natText n] := by
  intro a b h
  refine append_natText_injective ('|' :: ' ' :: (title ++ [' ', '|', ' '])) [' ', '|'] ?_
  simpa [Markdown.row] using h

theorem Summary.reportLines_injective : Function.Injective Summary.reportLines := by
  rintro ⟨t₁, e₁, n₁, rows₁⟩ ⟨t₂, e₂, n₂, rows₂⟩ h
  simp only [Summary.reportLines, List.cons_append, List.nil_append, List.cons.injEq, true_and]
    at h
  obtain ⟨htotal, heditable, hrest, hrows⟩ := h
  rw [countRow_injective _ htotal, countRow_injective _ heditable, countRow_injective _ hrest,
    hrows]

/-- A report shows one summary. -/
theorem Shows.unique {m₁ m₂ : Summary} (h₁ : Shows r m₁) (h₂ : Shows r m₂) : m₁ = m₂ :=
  Summary.reportLines_injective (h₁.symm.trans h₂)

/-! ### The report on a list of items -/

theorem isLine_itemRow {item : List Char} (h : isLine item = true) :
    isLine (Summary.itemRow item) = true := by
  have hstatus : isLine (Markdown.strong
      (if isEditable (.text item) then "EDITABLE" else "NOT EDITABLE").toList) = true := by
    cases isEditable (.text item) <;> decide
  have hreason : ∀ q : Reason, isLine q.code.toList = true := by
    intro q
    cases q <;> decide
  refine isLine_row (List.forall_mem_cons.mpr ⟨isLine_code (isLine_cell (isLine_trim h)), ?_⟩)
  exact List.forall_mem_cons.mpr ⟨hstatus, List.forall_mem_singleton.mpr (hreason _)⟩

theorem isLine_countRow {title : List Char} (h : isLine title = true) (n : Nat) :
    isLine (Markdown.row [title, natText n]) = true :=
  isLine_row (List.forall_mem_cons.mpr ⟨h, List.forall_mem_singleton.mpr (isLine_natText n)⟩)

theorem isLine_of_mem_reportLines (h : ∀ item ∈ l, isLine item = true) :
    ∀ x ∈ (Summary.ofItems l).reportLines, isLine x = true := by
  have hrows : ∀ x ∈ l.map Summary.itemRow, isLine x = true := by
    intro x hx
    obtain ⟨item, hitem, rfl⟩ := List.mem_map.mp hx
    exact isLine_itemRow (h item hitem)
  -- The three lines with counts are among nine that are fixed.
  simp only [Summary.reportLines, List.forall_mem_append, List.forall_mem_cons]
  refine ⟨⟨by decide, rfl, by decide, by decide, isLine_countRow (by decide) _,
    isLine_countRow (by decide) _, isLine_countRow (by decide) _, rfl, by decide, rfl, by decide,
    by decide, List.forall_mem_nil _⟩, hrows⟩

theorem reportLines_eq (vs : List Verdict) :
    reportLines vs = (Summary.mk vs.length (editableCount vs) (vs.length - editableCount vs)
      ((vs.map cells).map Markdown.row)).reportLines := by
  rfl

/-- The verdicts on the items make the report on the items. -/
theorem reportLines_map_ofText (l : List (List Char)) :
    reportLines (l.map Verdict.ofText) = (Summary.ofItems l).reportLines := by
  have heditable : editableCount (l.map Verdict.ofText)
      = l.countP fun item => isEditable (.text item) := List.countP_map ..
  have hrest : l.length - (l.countP fun item => isEditable (.text item))
      = l.countP fun item => !isEditable (.text item) := by
    have htotal := List.length_eq_countP_add_countP (fun item => isEditable (.text item)) (l := l)
    simp only [Bool.not_eq_true, Bool.decide_eq_false] at htotal
    omega
  have hrows : ((l.map Verdict.ofText).map cells).map Markdown.row = l.map Summary.itemRow := by
    rw [List.map_map, List.map_map]
    rfl
  rw [reportLines_eq, List.length_map, heditable, hrest, hrows]
  rfl

/-- The three answers. -/
inductive Answer (l : List (List Char)) : List Char → Prop where
  | none (h : l = []) : Answer l noneText
  | tooMany (h : 500 < l.length) : Answer l (tooManyText l.length)
  | report (h : l ≠ []) (hmax : l.length ≤ 500) :
      Answer l (Markdown.ofLines (Summary.ofItems l).reportLines)

theorem render_tooMany (n : Nat) : (Batch.tooMany n).render = tooManyText n := by
  have hassoc : ∀ a b c d e : List Char, a ++ b ++ c ++ d ++ e = a ++ (b ++ (c ++ (d ++ e))) := by
    simp
  have hmax : natText maxBatch = ['5', '0', '0'] := by decide
  have htail : " expressions given; at most ".toList
      ++ (['5', '0', '0'] ++ " are accepted per call.".toList)
        = " expressions given; at most 500 are accepted per call.".toList := by decide
  refine (hassoc _ _ _ _ _).trans ?_
  rw [hmax]
  exact congrArg (fun t => "Error: ".toList ++ (natText n ++ t)) htail

theorem answer_batchText (s : List Char) : Answer (items s) (Report.batchText s) := by
  rw [Report.batchText, ofText, nonBlankLines_eq_items]
  split_ifs with hempty hmany
  · exact .none (List.isEmpty_iff.mp hempty)
  · rw [render_tooMany]
    exact .tooMany hmany
  · have hne : items s ≠ [] := mt List.isEmpty_iff.mpr hempty
    show Answer _ (Markdown.ofLines (reportLines _))
    rw [reportLines_map_ofText]
    exact .report hne (Nat.le_of_not_lt hmany)

theorem reports_of_answer (hl : ∀ item ∈ l, isLine item = true) (h : Answer l r) :
    Reports l r := by
  cases h with
  | none h =>
    subst h
    refine ⟨iff_of_true rfl rfl, fun n => ?_, fun m => ?_, fun hne => absurd rfl hne⟩
    · exact iff_of_false (noneText_ne_tooManyText n) fun h => absurd h.1 (by decide)
    · exact iff_of_false (not_shows_of_isLine isLine_noneText m) fun h => h.1 rfl
  | tooMany hmany =>
    have hmax : ¬ l.length ≤ 500 := Nat.not_le.mpr hmany
    refine ⟨iff_of_false (noneText_ne_tooManyText _).symm ?_, fun n => ?_, fun m => ?_,
      fun _ h => absurd h hmax⟩
    · rintro rfl
      exact absurd hmany (by decide)
    · exact ⟨fun h => ⟨hmany, (tooManyText_injective h).symm⟩, fun h => congrArg _ h.2.symm⟩
    · exact iff_of_false (not_shows_of_isLine (isLine_tooManyText _) m) fun h => hmax h.2.1
  | report hne hmax =>
    have hshows : Shows (Markdown.ofLines (Summary.ofItems l).reportLines) (Summary.ofItems l) :=
      lines_ofLines (isLine_of_mem_reportLines hl)
    -- Each error is one line, which is no report.
    have herror : ∀ e, isLine e = true → Markdown.ofLines (Summary.ofItems l).reportLines ≠ e := by
      rintro e he rfl
      exact not_shows_of_isLine he _ hshows
    refine ⟨iff_of_false (herror _ isLine_noneText) hne, fun n => ?_, fun m => ?_, fun _ _ => rfl⟩
    · exact iff_of_false (herror _ (isLine_tooManyText n)) fun h =>
        absurd h.1 (Nat.not_lt.mpr hmax)
    · refine ⟨fun h => ⟨hne, hmax, h.unique hshows⟩, ?_⟩
      rintro ⟨-, -, rfl⟩
      exact hshows

end Batch

open Batch in
/-- The answer to every batch reports its items, and the reports on two batches add up to the one
on both of them together. -/
theorem batch_reports_items :
    (∀ s : List Char, Report.batch (.text s) = .ok (Report.batchText s) ∧
        Reports (items s) (Report.batchText s)) ∧
      ∀ (s₁ s₂ : List Char) (m₁ m₂ : Summary), Shows (Report.batchText s₁) m₁ →
        Shows (Report.batchText s₂) m₂ → m₁.total + m₂.total ≤ 500 →
        Shows (Report.batchText (s₁ ++ '\n' :: s₂)) (m₁.append m₂) := by
  have hreports : ∀ s, Reports (items s) (Report.batchText s) := fun s =>
    reports_of_answer (fun item h => (mem_items_iff.mp h).1) (answer_batchText s)
  refine ⟨fun s => ⟨rfl, hreports s⟩, fun s₁ s₂ m₁ m₂ h₁ h₂ htotal => ?_⟩
  obtain ⟨hne, -, rfl⟩ := ((hreports s₁).shows_iff m₁).mp h₁
  obtain ⟨-, -, rfl⟩ := ((hreports s₂).shows_iff m₂).mp h₂
  have hitems : items (s₁ ++ '\n' :: s₂) = items s₁ ++ items s₂ :=
    items_append_cons (by decide) s₁ s₂
  refine ((hreports _).shows_iff _).mpr ⟨?_, ?_, ?_⟩
  · rw [hitems]
    exact List.append_ne_nil_of_left_ne_nil hne _
  · rw [hitems, List.length_append]
    exact htotal
  · rw [hitems, Summary.ofItems_append]

open Batch in
/-- A line that ends in a carriage return before one that begins with a line feed: the two breaks
at the seam and the one between them end no further line. -/
theorem batch_reports_items_seam :
    Shows (Report.batchText ['a', '\r'])
        ⟨1, 1, 0, ["| \x60a\x60 | **EDITABLE** | lvalue |".toList]⟩ ∧
      Shows (Report.batchText ['\n', 'b', '+', '1'])
        ⟨1, 0, 1, ["| \x60b+1\x60 | **NOT EDITABLE** | binary_operator |".toList]⟩ ∧
      1 + 1 ≤ 500 ∧
      Shows (Report.batchText ['a', '\r', '\n', '\n', 'b', '+', '1'])
        ⟨2, 1, 1, ["| \x60a\x60 | **EDITABLE** | lvalue |".toList,
          "| \x60b+1\x60 | **NOT EDITABLE** | binary_operator |".toList]⟩ := by
  obtain ⟨hreports, happend⟩ := batch_reports_items
  have h₁ : Shows (Report.batchText ['a', '\r'])
      ⟨1, 1, 0, ["| \x60a\x60 | **EDITABLE** | lvalue |".toList]⟩ :=
    ((hreports _).2.shows_iff _).mpr ⟨by decide, by decide, by decide⟩
  have h₂ : Shows (Report.batchText ['\n', 'b', '+', '1'])
      ⟨1, 0, 1, ["| \x60b+1\x60 | **NOT EDITABLE** | binary_operator |".toList]⟩ :=
    ((hreports _).2.shows_iff _).mpr ⟨by decide, by decide, by decide⟩
  have h := happend _ _ _ _ h₁ h₂ (by decide)
  exact ⟨h₁, h₂, by decide, h⟩

end WatchExpr
