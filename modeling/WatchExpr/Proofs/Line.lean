import Mathlib.Tactic.SplitIfs
import WatchExpr.Markdown
import WatchExpr.Text.Line
import WatchExpr.Proofs.Blank
import WatchExpr.Text.Decimal

/-!
# Lines and what stands between line breaks

A text is a line when there is no line break in it.  The lines of a text that begins with a line are
told from the break after it (`lines_append_cons`, `lines_append_pair`), so that a list of lines is
read back from the text that they are written to (`lines_ofLines`).

The items of a text are what stands between its line breaks, as far as it is not blank.  They are
the lines that are not blank (`nonBlankLines_eq_items`): the two ways to cut a text differ only in
empty lines, one for a carriage return with a line feed after it and one at the end.  Items are
simpler to reason about, because each line break divides them (`items_append_cons`).
-/

namespace WatchExpr

variable {c : Char} {s t x : List Char}

/-! ### Texts without line breaks -/

/-- Whether there is no line break in the text. -/
def isLine (s : List Char) : Bool := s.all fun c => !isLineBreak c

theorem isLine_iff : isLine s = true ↔ ∀ c ∈ s, isLineBreak c = false := by
  simp [isLine]

theorem isLine_append : isLine (s ++ t) = true ↔ isLine s = true ∧ isLine t = true := by
  simp [isLine]

theorem isLine_cons : isLine (c :: s) = true ↔ isLineBreak c = false ∧ isLine s = true := by
  simp [isLine]

/-- Every text is a line, or begins with a line and a break after it. -/
@[elab_as_elim]
theorem text_induction {P : List Char → Prop} (line : ∀ x, isLine x = true → P x)
    (append : ∀ x c t, isLine x = true → isLineBreak c = true → P t → P (x ++ c :: t))
    (s : List Char) : P s := by
  -- The induction goes character by character, with `x` for what is read of a line.
  suffices h : ∀ x, isLine x = true → P (x ++ s) from h [] rfl
  induction s with
  | nil => simpa using line
  | cons c t ih =>
    intro x hx
    cases hc : isLineBreak c with
    | true => exact append x c t hx hc (ih [] rfl)
    | false =>
      rw [List.append_cons]
      exact ih _ (isLine_append.mpr ⟨hx, isLine_cons.mpr ⟨hc, rfl⟩⟩)

theorem lines_cons (hc : isLineBreak c = false) (s : List Char) :
    lines (c :: s) = consLine c (lines s) := by
  have hreturn : c ≠ '\r' := by
    rintro rfl
    exact absurd hc (by decide)
  rw [lines, if_neg (by rw [hc]; decide)]
  exact fun rest h => absurd h hreturn

/-- A text that is not empty and has no line break is its only line. -/
theorem lines_of_isLine (hx : isLine x = true) (hne : x ≠ []) : lines x = [x] := by
  induction x with
  | nil => exact absurd rfl hne
  | cons c x ih =>
    obtain ⟨hc, hx⟩ := isLine_cons.mp hx
    rw [lines_cons hc]
    cases x with
    | nil => rw [lines_nil]; rfl
    | cons d x => rw [ih hx (List.cons_ne_nil _ _)]; rfl

/-- What is true of the lines of a text is true after a line without its break. -/
theorem lines_append_of_isLine (hx : isLine x = true) (h : lines s = [] :: lines t) :
    lines (x ++ s) = x :: lines t := by
  induction x with
  | nil => exact h
  | cons c x ih =>
    obtain ⟨hc, hx⟩ := isLine_cons.mp hx
    rw [List.cons_append, lines_cons hc, ih hx]
    rfl

/-- A line break ends the line before it. -/
theorem lines_append_cons (hx : isLine x = true) (hc : isLineBreak c = true)
    (hpair : c = '\r' → t.head? ≠ some '\n') : lines (x ++ c :: t) = x :: lines t := by
  refine lines_append_of_isLine hx ?_
  rw [lines, if_pos hc]
  rintro rest rfl rfl
  exact hpair rfl rfl

/-- A carriage return and a line feed end a line together. -/
theorem lines_append_pair (hx : isLine x = true) (t : List Char) :
    lines (x ++ '\r' :: '\n' :: t) = x :: lines t :=
  lines_append_of_isLine hx (by rw [lines])

/-- Lines are read back from the text that they are written to. -/
theorem lines_ofLines {ls : List (List Char)} (h : ∀ l ∈ ls, isLine l = true) :
    lines (Markdown.ofLines ls) = ls := by
  induction ls with
  | nil => exact lines_nil
  | cons l ls ih =>
    rw [Markdown.ofLines_cons, lines_append_cons (h l (List.mem_cons_self ..)) (by decide)
      (fun h => absurd h (by decide)), ih fun l hl => h l (List.mem_cons_of_mem _ hl)]

/-! ### Items -/

/-- What stands between the line breaks of a text, in order, without what is blank. -/
def items (s : List Char) : List (List Char) :=
  (s.splitOnP isLineBreak).filter fun item => !isBlankText item

/-- A line break divides the items into those before it and those after it. -/
theorem items_append_cons (hc : isLineBreak c = true) (s t : List Char) :
    items (s ++ c :: t) = items s ++ items t := by
  rw [items, List.splitOnP_append_cons s t hc, List.filter_append]
  rfl

theorem items_of_isLine (hx : isLine x = true) :
    items x = [x].filter fun item => !isBlankText item := by
  rw [items, List.splitOnP_eq_singleton (isLine_iff.mp hx)]

theorem mem_items_of_isLine (hx : isLine x = true) :
    t ∈ items x ↔ t = x ∧ isBlankText x = false := by
  rw [items_of_isLine hx, List.mem_filter, List.mem_singleton]
  refine and_congr_right ?_
  rintro rfl
  rw [Bool.not_eq_true']

/-- A line break divides the lines that are not blank likewise.  When it is the first of a pair, the
second has an empty line before it, which does not count. -/
theorem nonBlankLines_append_cons (hx : isLine x = true) (hc : isLineBreak c = true)
    (t : List Char) : nonBlankLines (x ++ c :: t) = items x ++ nonBlankLines t := by
  have hfirst : ∀ ls, (x :: ls).filter (fun line => !isBlankText line)
      = items x ++ ls.filter fun line => !isBlankText line := fun ls => by
    rw [items_of_isLine hx, ← List.filter_append, List.singleton_append]
  by_cases hpair : c = '\r' ∧ t.head? = some '\n'
  · obtain ⟨rfl, hfeed⟩ := hpair
    obtain ⟨t, rfl⟩ := List.head?_eq_some_iff.mp hfeed
    have hempty : lines ('\n' :: t) = [] :: lines t :=
      lines_append_cons (x := []) rfl (by decide) fun h => absurd h (by decide)
    rw [nonBlankLines, lines_append_pair hx, hfirst, nonBlankLines, hempty]
    rfl
  · rw [nonBlankLines, lines_append_cons hx hc fun hreturn hfeed => hpair ⟨hreturn, hfeed⟩, hfirst]
    rfl

/-- The lines of a text that are not blank are its items. -/
theorem nonBlankLines_eq_items (s : List Char) : nonBlankLines s = items s := by
  induction s using text_induction with
  | line x hx =>
    rw [items_of_isLine hx]
    cases x with
    | nil => rfl
    | cons c x => rw [nonBlankLines, lines_of_isLine hx (List.cons_ne_nil _ _)]
  | append x c t hx hc ih => rw [nonBlankLines_append_cons hx hc, items_append_cons hc, ih]

/-- The items of a text are what stands in it without a line break inside and with one at either
side, unless the text begins or ends there, and is not blank. -/
theorem mem_items_iff : x ∈ items s ↔ isLine x = true ∧ isBlankText x = false ∧
    ∃ p q, s = p ++ (x ++ q) ∧ (∀ c ∈ p.getLast?, isLineBreak c = true) ∧
      ∀ c ∈ q.head?, isLineBreak c = true := by
  constructor
  · induction s using text_induction with
    | line y hy =>
      intro h
      obtain ⟨rfl, hblank⟩ := (mem_items_of_isLine hy).mp h
      exact ⟨hy, hblank, [], [], by simp, by simp, by simp⟩
    | append y c t hy hc ih =>
      intro h
      rw [items_append_cons hc, List.mem_append, mem_items_of_isLine hy] at h
      rcases h with ⟨rfl, hblank⟩ | h
      · exact ⟨hy, hblank, [], c :: t, by simp, by simp, by simpa using hc⟩
      · obtain ⟨hx, hblank, p, q, rfl, hp, hq⟩ := ih h
        refine ⟨hx, hblank, y ++ c :: p, q, by simp, ?_, hq⟩
        cases p with
        | nil => simpa using hc
        | cons d p => simpa [List.getLast?_append, List.getLast?_cons_cons] using hp
  · rintro ⟨hx, hblank, p, q, rfl, hp, hq⟩
    have hitem : x ∈ items x := (mem_items_of_isLine hx).mpr ⟨rfl, hblank⟩
    -- The break after it divides the items, and so does the one before it.
    have hright : x ∈ items (x ++ q) := by
      cases q with
      | nil => rwa [List.append_nil]
      | cons c q =>
        rw [items_append_cons (hq c rfl)]
        exact List.mem_append_left _ hitem
    rcases List.eq_nil_or_concat p with rfl | ⟨p, c, rfl⟩
    · exact hright
    · rw [List.concat_append, items_append_cons (hp c (by simp))]
      exact List.mem_append_right _ hright

/-! ### What is written on a line -/

theorem isDigit_of_mem_natText {n : Nat} (h : c ∈ natText n) : c.isDigit = true :=
  Nat.isDigit_of_mem_toDigits (by decide) (by decide) h

/-- A number begins with a digit. -/
theorem exists_natText_eq_cons (n : Nat) :
    ∃ d digits, natText n = d :: digits ∧ d.isDigit = true := by
  obtain ⟨d, digits, hdigits⟩ := List.exists_cons_of_ne_nil (Nat.toDigits_ne_nil (n := n) (b := 10))
  have hd : d ∈ natText n := by
    rw [natText, hdigits]
    exact List.mem_cons_self ..
  exact ⟨d, digits, hdigits, isDigit_of_mem_natText hd⟩

theorem isLine_natText (n : Nat) : isLine (natText n) = true := by
  refine isLine_iff.mpr fun c hc => ?_
  have hblank := isBlank_of_isWord (isWord_of_isDigit (isDigit_of_mem_natText hc))
  exact Bool.eq_false_iff.mpr fun h => Bool.eq_false_iff.mp hblank (isBlank_of_isLineBreak h)

theorem isLine_trim (hs : isLine s = true) : isLine (trim s) = true := by
  obtain ⟨u, v, -, -, h⟩ := exists_blanks_trim s
  rw [h, isLine_append, isLine_append] at hs
  exact hs.2.1

/-- What is written for a character in a cell breaks no line that the character itself does not. -/
theorem isLine_cell (hs : isLine s = true) : isLine (Markdown.cell s) = true := by
  rw [isLine, Markdown.cell, List.all_flatMap, List.all_eq_true]
  intro c hc
  unfold Markdown.cellChar
  split_ifs
  · decide
  · decide
  · simpa using isLine_iff.mp hs c hc

theorem isLine_code (hs : isLine s = true) : isLine (Markdown.code s) = true :=
  isLine_cons.mpr ⟨by decide, isLine_append.mpr ⟨hs, by decide⟩⟩

theorem isLine_row {cells : List (List Char)} (h : ∀ s ∈ cells, isLine s = true) :
    isLine (Markdown.row cells) = true := by
  refine isLine_cons.mpr ⟨by decide, ?_⟩
  rw [isLine, List.all_flatMap, List.all_eq_true]
  exact fun s hs => isLine_cons.mpr ⟨by decide, isLine_append.mpr ⟨h s hs, by decide⟩⟩

end WatchExpr
