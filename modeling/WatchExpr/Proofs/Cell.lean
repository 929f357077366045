import Mathlib.Data.List.DropRight
import Mathlib.Tactic.SplitIfs
import WatchExpr.Markdown
import WatchExpr.Proofs.Line

/-!
# Tables that are read back

A bar in a row of a table is bare when no backslash stands directly before it.  The bare bars of a
row are those between its cells, as long as there are none in the cells (`cut_row`), and so a row
has one bare bar more than cells (`bareBars_row`).  A text that is written as a cell has no bare bar
(`bareBarsFrom_cell`), whatever stands in it: the bars of the text get a backslash each, and a
backslash at its end has a character after it that is no bar.

What was written is read back by taking off the backslash before each bar (`unescape_cell`).  Line
feeds are not told from spaces any more, which is the only thing that is lost (`cell_eq_iff`).  And
as there is no line feed in a row, the lines of a text are read back from it by cutting it at its
line feeds (`ofLines_inj`).
-/

namespace WatchExpr.Markdown

variable {c : Char} {s t : List Char} {cells : List (List Char)}

/-! ### Bare bars -/

/-- The number of bare bars in a text; `escaped` says whether a backslash stands directly before its
first character. -/
def bareBarsFrom : Bool → List Char → Nat
  | _, [] => 0
  | escaped, c :: rest =>
    (if c = '|' ∧ escaped = false then 1 else 0) + bareBarsFrom (c == '\\') rest

/-- The number of bars in a text that have no backslash directly before them. -/
def bareBars (s : List Char) : Nat := bareBarsFrom false s

/-- The pieces of a text between its bare bars. -/
def cutFrom : Bool → List Char → List (List Char)
  | _, [] => [[]]
  | escaped, c :: rest =>
    if c = '|' ∧ escaped = false then [] :: cutFrom false rest
    else (cutFrom (c == '\\') rest).modifyHead (c :: ·)

/-- What stands before, between and after the bare bars of a text, in order. -/
def cut (s : List Char) : List (List Char) := cutFrom false s

theorem bareBarsFrom_cons (b : Bool) (c : Char) (s : List Char) :
    bareBarsFrom b (c :: s)
      = (if c = '|' ∧ b = false then 1 else 0) + bareBarsFrom (c == '\\') s := rfl

theorem cutFrom_cons (b : Bool) (c : Char) (s : List Char) :
    cutFrom b (c :: s) = if c = '|' ∧ b = false then [] :: cutFrom false s
      else (cutFrom (c == '\\') s).modifyHead (c :: ·) := rfl

/-- A text falls into one piece more than it has bare bars. -/
theorem length_cutFrom (b : Bool) (s : List Char) :
    (cutFrom b s).length = bareBarsFrom b s + 1 := by
  induction s generalizing b with
  | nil => rfl
  | cons c s ih =>
    rw [cutFrom_cons, bareBarsFrom_cons]
    split_ifs with h
    · rw [List.length_cons, ih, h.1]
      exact Nat.add_comm ..
    · rw [List.length_modifyHead, ih, Nat.zero_add]

theorem bareBarsFrom_append_of_notMem (ht : '|' ∉ t) (b : Bool) (s : List Char) :
    bareBarsFrom b (s ++ t) = bareBarsFrom b s := by
  induction s generalizing b with
  | nil =>
    induction t generalizing b with
    | nil => rfl
    | cons c t ih =>
      rw [List.mem_cons, not_or] at ht
      rw [List.nil_append, bareBarsFrom_cons, if_neg fun h => ht.1 h.1.symm, Nat.zero_add]
      exact ih ht.2 _
  | cons c s ih => rw [List.cons_append, bareBarsFrom_cons, ih, bareBarsFrom_cons]

/-- The first bare bar ends the first piece. -/
theorem cutFrom_append_bar {b : Bool} (hs : bareBarsFrom b s = 0) (t : List Char) :
    cutFrom b (s ++ ' ' :: '|' :: t) = (s ++ [' ']) :: cutFrom false t := by
  induction s generalizing b with
  | nil => rfl
  | cons c s ih =>
    rw [bareBarsFrom_cons, Nat.add_eq_zero_iff] at hs
    have hbar : ¬ (c = '|' ∧ b = false) := fun h => by simp [h] at hs
    rw [List.cons_append, cutFrom_cons, if_neg hbar, ih hs.2]
    rfl

/-! ### Rows -/

/-- The cells of a row, each between two blanks, are what stands between its bare bars. -/
theorem cut_row (h : ∀ s ∈ cells, bareBarsFrom false s = 0) :
    cut (row cells) = [] :: (cells.map fun s => ' ' :: (s ++ [' '])) ++ [[]] := by
  have hcells : cutFrom false (cells.flatMap fun s => ' ' :: (s ++ [' ', '|']))
      = (cells.map fun s => ' ' :: (s ++ [' '])) ++ [[]] := by
    induction cells with
    | nil => rfl
    | cons s cells ih =>
      obtain ⟨hs, hcells⟩ := List.forall_mem_cons.mp h
      have hblank : bareBarsFrom false (' ' :: s) = 0 := (Nat.zero_add _).trans hs
      have hseam := cutFrom_append_bar hblank (cells.flatMap fun s => ' ' :: (s ++ [' ', '|']))
      rw [ih hcells] at hseam
      simpa using hseam
  rw [cut, row, cutFrom_cons, if_pos ⟨rfl, rfl⟩, hcells]
  rfl

/-- A row has a bare bar at its start and one after each cell. -/
theorem bareBars_row (h : ∀ s ∈ cells, bareBarsFrom false s = 0) :
    bareBars (row cells) = cells.length + 1 := by
  have hlength := length_cutFrom false (row cells)
  rw [← cut, cut_row h] at hlength
  simp only [List.cons_append, List.length_cons, List.length_append, List.length_map,
    List.length_nil] at hlength
  exact (Nat.succ_injective hlength).symm

/-- A row of two cells is told by its last one. -/
theorem row_pair_injective (title : List Char) : Function.Injective fun s => row [title, s] := by
  intro s t h
  simpa [row] using h

/-! ### Texts in cells -/

/-- A text in a cell has no bare bar. -/
theorem bareBarsFrom_cell (b : Bool) (s : List Char) : bareBarsFrom b (cell s) = 0 := by
  induction s generalizing b with
  | nil => rfl
  | cons c s ih =>
    rw [cell_cons, cellChar]
    split_ifs with hbar hfeed
    · rw [List.cons_append, List.singleton_append, bareBarsFrom_cons, bareBarsFrom_cons, ih]
      rfl
    · rw [List.singleton_append, bareBarsFrom_cons, ih]
      rfl
    · rw [List.singleton_append, bareBarsFrom_cons, ih, if_neg fun h => hbar h.1]

theorem bareBarsFrom_code_cell (s : List Char) : bareBarsFrom false (code (cell s)) = 0 := by
  rw [code, bareBarsFrom_cons, bareBarsFrom_append_of_notMem (by decide), bareBarsFrom_cell]
  rfl

/-- The text without the backslash before each bar. -/
def unescape : List Char → List Char
  | '\\' :: '|' :: rest => '|' :: unescape rest
  | c :: rest => c :: unescape rest
  | [] => []

/-- A space for the line feed, and every other character as it is. -/
def spacedChar (c : Char) : Char := if c = '\n' then ' ' else c

/-- The text with a space for each line feed. -/
def spaced (s : List Char) : List Char := s.map spacedChar

theorem spacedChar_of_ne (h : c ≠ '\n') : spacedChar c = c := if_neg h

theorem spaced_eq_self (h : '\n' ∉ s) : spaced s = s := by
  refine (List.map_congr_left fun c hc => ?_).trans (List.map_id s)
  exact spacedChar_of_ne (ne_of_mem_of_not_mem hc h)

theorem unescape_cons (h : s.head? ≠ some '|') : unescape (c :: s) = c :: unescape s := by
  rw [unescape]
  rintro rest - rfl
  exact h rfl

/-- What is written for a text begins with no bar. -/
theorem head?_cell_ne (s : List Char) : (cell s).head? ≠ some '|' := by
  cases s with
  | nil => decide
  | cons c s =>
    rw [cell_cons, cellChar]
    split_ifs with hbar
    · simp
    · simp
    · simpa using hbar

/-- A text is read back from its cell, but for the line feeds. -/
theorem unescape_cell (s : List Char) : unescape (cell s) = spaced s := by
  induction s with
  | nil => rfl
  | cons c s ih =>
    rw [cell_cons, cellChar, spaced, List.map_cons, ← spaced, ← ih, spacedChar]
    split_ifs with hbar hfeed hfeed
    · rw [hbar] at hfeed
      exact absurd hfeed (by decide)
    · rw [hbar]
      rfl
    · exact unescape_cons (head?_cell_ne s)
    · exact unescape_cons (head?_cell_ne s)

theorem cell_spaced (s : List Char) : cell (spaced s) = cell s := by
  induction s with
  | nil => rfl
  | cons c s ih =>
    rw [spaced, List.map_cons, ← spaced, cell_cons, cell_cons, ih, spacedChar]
    split_ifs with hfeed
    · rw [hfeed]
      rfl
    · rfl

/-- Two texts are written alike in a cell when they differ in line feeds and spaces only. -/
theorem cell_eq_iff : cell s = cell t ↔ spaced s = spaced t := by
  refine ⟨fun h => ?_, fun h => ?_⟩
  · rw [← unescape_cell, h, unescape_cell]
  · rw [← cell_spaced, h, cell_spaced]

/-! ### Lines that are ended by line feeds -/

/-- What is not among the characters that a string is made of is not in the string.  Lean reads a
string literal as such a string, where to decide it on `toList` would decode it first. -/
theorem notMem_toList {c : Char} {l : List Char} (h : c ∉ l) : c ∉ (String.ofList l).toList := by
  rwa [String.toList_ofList]

theorem newline_notMem_row (h : ∀ s ∈ cells, '\n' ∉ s) : '\n' ∉ row cells := by
  rw [row, List.mem_cons, List.mem_flatMap]
  rintro (hbar | ⟨s, hs, hfeed⟩)
  · exact absurd hbar (by decide)
  · have hmem : '\n' ∈ s := by simpa using hfeed
    exact h s hs hmem

/-- Between the line feeds of a text stand its lines, and nothing after the last. -/
theorem splitOnP_ofLines {ls : List (List Char)} (h : ∀ l ∈ ls, '\n' ∉ l) :
    (ofLines ls).splitOnP (· == '\n') = ls ++ [[]] := by
  induction ls with
  | nil => rfl
  | cons l ls ih =>
    obtain ⟨hl, hls⟩ := List.forall_mem_cons.mp h
    have hplain : ∀ c ∈ l, (c == '\n') = false := fun c hc =>
      beq_false_of_ne (ne_of_mem_of_not_mem hc hl)
    rw [ofLines_cons, List.splitOnP_append_cons l _ (by decide), ih hls,
      List.splitOnP_eq_singleton hplain]
    rfl

/-- Lines without line feeds are told by the text that they are written to. -/
theorem ofLines_inj {l₁ l₂ : List (List Char)} (h₁ : ∀ l ∈ l₁, '\n' ∉ l)
    (h₂ : ∀ l ∈ l₂, '\n' ∉ l) (h : ofLines l₁ = ofLines l₂) : l₁ = l₂ := by
  have hsplit := congrArg (List.splitOnP (· == '\n')) h
  rw [splitOnP_ofLines h₁, splitOnP_ofLines h₂] at hsplit
  exact List.append_cancel_right hsplit

end WatchExpr.Markdown
