import Mathlib.Data.List.Induction
import WatchExpr.Proofs.View

/-!
# Masking without a count

The scan that masks a text counts the subscripts that are open.  This file says what it does without
the count.  A place is `Inside` a subscript when, from some place on, there are more opening than
closing brackets before it.  Each character of the masked view is told from one character of the
text and from whether its place is inside (`mask_eq_flatMap`).

The count never goes below zero, so that it is not the surplus of openers over closers in what has
been read but the greatest such surplus in any end of it (`lt_depth_iff`).

The view has the brackets of the text in their order, those inside as before, and the text outside
(`keep_maskFrom`).  All else in it are placeholders, one directly before each closer that is inside
(`IsView.placeholder`).
-/

namespace WatchExpr.Subscript

variable {n i k : Nat} {c : Char} {s t : List Char}

/-! ### Places inside subscripts -/

/-- From some place `j` on there are more opening than closing brackets before the place `i`. -/
def Inside (s : List Char) (i : Nat) : Prop :=
  ∃ j ≤ i, (s.extract j i).count ']' < (s.extract j i).count '['

instance (s : List Char) (i : Nat) : Decidable (Inside s i) :=
  inferInstanceAs (Decidable (∃ j ≤ i, _))

/-- More than `k` subscripts are open where in some end of the text there are more than `k` openers
without a closer. -/
theorem lt_depth_iff (s : List Char) (k : Nat) :
    k < depth s ↔ ∃ t, t <:+ s ∧ t.count ']' + k < t.count '[' := by
  -- An end of a longer text is empty, or an end of the text and the last character.
  induction s using List.reverseRecOn generalizing k with
  | nil => simp [depth]
  | append_singleton s c ih =>
    have hends : (∃ t, t <:+ s ++ [c] ∧ t.count ']' + k < t.count '[') ↔
        ∃ t, t <:+ s ∧ (t ++ [c]).count ']' + k < (t ++ [c]).count '[' := by
      constructor
      · rintro ⟨t, ht, hcount⟩
        rcases List.suffix_concat_iff.mp ht with rfl | ⟨t, rfl, hend⟩
        · simp at hcount
        · exact ⟨t, hend, hcount⟩
      · rintro ⟨t, ht, hcount⟩
        exact ⟨t ++ [c], List.suffix_concat_iff.mpr (.inr ⟨t, rfl, ht⟩), hcount⟩
    rw [hends, depth, depthFrom_append, ← depth, depthFrom_cons, depthFrom_nil]
    simp only [List.count_append]
    cases c using bracketCases with
    | opener =>
      rw [nest_open]
      cases k with
      | zero => exact iff_of_true (Nat.succ_pos _) ⟨[], List.nil_suffix, by decide⟩
      | succ k =>
        rw [Nat.add_lt_add_iff_right, ih]
        refine exists_congr fun t => and_congr_right fun _ => ?_
        show _ ↔ t.count ']' + 0 + (k + 1) < t.count '[' + 1
        omega
    | closer =>
      have hlt : k < nest (depth s) ']' ↔ k + 1 < depth s := by
        rw [nest_close]
        omega
      rw [hlt, ih]
      refine exists_congr fun t => and_congr_right fun _ => ?_
      show _ ↔ t.count ']' + 1 + k < t.count '[' + 0
      omega
    | other c hopen hclose =>
      rw [nest_of_ne hopen hclose, ih, List.count_eq_zero.mpr (by simpa using Ne.symm hclose),
        List.count_eq_zero.mpr (by simpa using Ne.symm hopen)]
      rfl

theorem inside_iff : Inside s i ↔ 0 < depth (s.take i) := by
  rw [lt_depth_iff]
  constructor
  · rintro ⟨j, -, hcount⟩
    rw [List.extract_eq_drop_take'] at hcount
    exact ⟨_, List.drop_suffix j _, hcount⟩
  · rintro ⟨t, ht, hcount⟩
    refine ⟨(s.take i).length - t.length, ?_, ?_⟩
    · rw [List.length_take]
      omega
    · rw [List.extract_eq_drop_take', ← List.suffix_iff_eq_drop.mp ht]
      exact hcount

/-! ### Marked characters -/

/-- The characters of the text, each with whether its place is inside a subscript. -/
def marked (s : List Char) : List (Char × Bool) :=
  s.zipIdx.map fun p => (p.1, decide (Inside s p.2))

/-- The same by the count, with `n` subscripts open before the text. -/
def markedFrom : Nat → List Char → List (Char × Bool)
  | _, [] => []
  | n, c :: s => (c, decide (0 < n)) :: markedFrom (nest n c) s

theorem markedFrom_cons (n : Nat) (c : Char) (s : List Char) :
    markedFrom n (c :: s) = (c, decide (0 < n)) :: markedFrom (nest n c) s := rfl

theorem markedFrom_append (n : Nat) (s t : List Char) :
    markedFrom n (s ++ t) = markedFrom n s ++ markedFrom (depthFrom n s) t := by
  induction s generalizing n with
  | nil => rfl
  | cons c s ih => rw [List.cons_append, markedFrom_cons, ih, markedFrom_cons]; rfl

theorem map_zipIdx_eq_markedFrom (n : Nat) (s : List Char) :
    (s.zipIdx.map fun p => (p.1, decide (0 < depthFrom n (s.take p.2)))) = markedFrom n s := by
  induction s generalizing n with
  | nil => rfl
  | cons c s ih =>
    rw [List.zipIdx_cons, List.zipIdx_succ, List.map_cons, List.map_map, markedFrom_cons, ← ih]
    rfl

theorem marked_eq_markedFrom (s : List Char) : marked s = markedFrom 0 s := by
  rw [← map_zipIdx_eq_markedFrom]
  simp only [marked, inside_iff]
  rfl

/-! ### The view piece by piece -/

/-- What the view has for a character of the text, by whether it is inside a subscript. -/
def piece (c : Char) (inside : Bool) : List Char :=
  if c = '[' then ['[']
  else if c = ']' then (if inside then ['0', ']'] else [']'])
  else if inside then [] else [c]

theorem shown_eq_piece (n : Nat) (c : Char) : shown n c = piece c (decide (0 < n)) := by
  cases n <;> rfl

theorem maskFrom_eq_flatMap (n : Nat) (s : List Char) :
    maskFrom n s = (markedFrom n s).flatMap fun p => piece p.1 p.2 := by
  induction s generalizing n with
  | nil => rfl
  | cons c s ih => rw [maskFrom_cons, markedFrom_cons, List.flatMap_cons, ih, shown_eq_piece]

/-! ### What the view keeps -/

/-- Whether the character is a bracket. -/
def isBracket (c : Char) : Bool := c == '[' || c == ']'

/-- The brackets of a text, each with whether its place is inside a subscript. -/
def brackets (s : List Char) : List (Char × Bool) := (marked s).filter fun p => isBracket p.1

/-- The text outside subscripts, without the brackets. -/
def outsideText (s : List Char) : List Char :=
  ((marked s).filter fun p => !isBracket p.1 && !p.2).map Prod.fst

/-- Brackets, and all that is outside. -/
def keep (p : Char × Bool) : Bool := isBracket p.1 || !p.2

/-- What is left of a character leaves as many subscripts open as the character. -/
theorem depthFrom_shown (n : Nat) (c : Char) : depthFrom n (shown n c) = nest n c := by
  cases c using bracketCases with
  | opener => rfl
  | closer => cases n <;> rfl
  | other c hopen hclose =>
    rw [shown_of_ne hopen hclose, nest_of_ne hopen hclose]
    cases n with
    | zero => exact nest_of_ne hopen hclose 0
    | succ n => rfl

theorem keep_markedFrom_shown (n : Nat) (c : Char) :
    (markedFrom n (shown n c)).filter keep = [(c, decide (0 < n))].filter keep := by
  cases c using bracketCases with
  | opener => rfl
  | closer => cases n <;> rfl
  | other c hopen hclose =>
    have hbracket : isBracket c = false := by simp [isBracket, hopen, hclose]
    rw [shown_of_ne hopen hclose]
    cases n with
    | zero => rfl
    | succ n => simp [keep, hbracket, markedFrom]

/-- The brackets and the text outside are the same in the text and in its view. -/
theorem keep_maskFrom (n : Nat) (s : List Char) :
    (markedFrom n (maskFrom n s)).filter keep = (markedFrom n s).filter keep := by
  induction s generalizing n with
  | nil => rfl
  | cons c s ih =>
    rw [maskFrom_cons, markedFrom_append, depthFrom_shown, List.filter_append,
      keep_markedFrom_shown, ih, ← List.filter_append]
    rfl

/-- Whatever is told from what is kept is the same in the text and in its view. -/
theorem filter_marked_mask {p : Char × Bool → Bool} (hp : ∀ x, p x = true → keep x = true)
    (s : List Char) : (marked (mask s)).filter p = (marked s).filter p := by
  have hkeep : ∀ l : List (Char × Bool), l.filter p = (l.filter keep).filter p := by
    intro l
    rw [List.filter_filter]
    refine List.filter_congr fun x _ => ?_
    cases h : p x with
    | true => rw [hp x h]; rfl
    | false => rfl
  rw [marked_eq_markedFrom, marked_eq_markedFrom, hkeep, mask, keep_maskFrom, ← hkeep]

/-! ### Placeholders -/

theorem depth_take_succ (h : s[i]? = some c) :
    depth (s.take (i + 1)) = nest (depth (s.take i)) c := by
  obtain ⟨hi, rfl⟩ := List.getElem?_eq_some_iff.mp h
  rw [List.take_succ_eq_append_getElem hi, depth, depthFrom_append]
  rfl

/-- Directly before a closer inside a view stands one placeholder, and not a second one. -/
theorem IsView.placeholder (h : IsView s) (hclose : s[i]? = some ']') (hi : 0 < depth (s.take i)) :
    2 ≤ i ∧ s[i - 1]? = some '0' ∧ s[i - 2]? ≠ some '0' := by
  have hplain : ∀ j, s[j]? = some '0' → depth (s.take (j + 1)) = depth (s.take j) := fun j hj => by
    rw [depth_take_succ hj]
    rfl
  obtain ⟨hpos, hzero⟩ := h.closers i hclose hi
  obtain ⟨i, rfl⟩ := Nat.exists_eq_succ_of_ne_zero (Nat.ne_of_gt hpos)
  rw [Nat.succ_eq_add_one, Nat.add_sub_cancel] at hzero ⊢
  rw [hplain i hzero] at hi
  -- The placeholder is inside as well, so there is an opener before it.
  cases i with
  | zero => cases hi
  | succ i =>
    refine ⟨by omega, hzero, fun hsecond => ?_⟩
    change s[i]? = some '0' at hsecond
    rw [hplain i hsecond] at hi
    have hnext := (h.contents i '0' hsecond (by decide) (by decide) hi).2
    rw [hzero] at hnext
    exact absurd hnext (by decide)

/-- The masked view, character by character of the text and without a count.  It has the brackets of
the text in their order and the text outside subscripts, directly before each closer that is inside
one placeholder, and nothing else. -/
theorem mask_eq_flatMap (s : List Char) :
    mask s = (marked s).flatMap (fun p => piece p.1 p.2) ∧
      brackets (mask s) = brackets s ∧ outsideText (mask s) = outsideText s ∧
      (∀ i, (mask s)[i]? = some ']' → Inside (mask s) i →
        2 ≤ i ∧ (mask s)[i - 1]? = some '0' ∧ (mask s)[i - 2]? ≠ some '0') ∧
      (∀ i c, (mask s)[i]? = some c → isBracket c = false → Inside (mask s) i →
        c = '0' ∧ (mask s)[i + 1]? = some ']') := by
  refine ⟨?_, ?_, ?_, fun i hclose hi => ?_, fun i c hc hbracket hi => ?_⟩
  · rw [marked_eq_markedFrom]
    exact maskFrom_eq_flatMap 0 s
  · apply filter_marked_mask
    intro x hx
    rw [keep, hx, Bool.true_or]
  · apply congrArg (List.map Prod.fst)
    apply filter_marked_mask
    intro x hx
    rw [keep, (Bool.and_eq_true_iff.mp hx).2, Bool.or_true]
  · exact (isView_mask s).placeholder hclose (inside_iff.mp hi)
  · have hne : c ≠ '[' ∧ c ≠ ']' := by simpa [isBracket] using hbracket
    exact (isView_mask s).contents i c hc hne.1 hne.2 (inside_iff.mp hi)

/-- A subscript in a subscript and a closer too many, in `a[[0]0]]`: the last but one closer and the
placeholder before it are inside. -/
theorem mask_eq_flatMap_nested :
    mask ['a', '[', 'b', '[', 'i', ']', ']', ']'] = ['a', '[', '[', '0', ']', '0', ']', ']'] ∧
      Inside (mask ['a', '[', 'b', '[', 'i', ']', ']', ']']) 6 ∧
      (2 ≤ 6 ∧ (mask ['a', '[', 'b', '[', 'i', ']', ']', ']'])[5]? = some '0' ∧
        (mask ['a', '[', 'b', '[', 'i', ']', ']', ']'])[4]? ≠ some '0') ∧
      Inside (mask ['a', '[', 'b', '[', 'i', ']', ']', ']']) 5 ∧
      ('0' = '0' ∧ (mask ['a', '[', 'b', '[', 'i', ']', ']', ']'])[6]? = some ']') := by
  obtain ⟨-, -, -, hcloser, hcontents⟩ := mask_eq_flatMap ['a', '[', 'b', '[', 'i', ']', ']', ']']
  have hclose : Inside (mask ['a', '[', 'b', '[', 'i', ']', ']', ']']) 6 := by decide
  have hzero : Inside (mask ['a', '[', 'b', '[', 'i', ']', ']', ']']) 5 := by decide
  exact ⟨rfl, hclose, hcloser 6 rfl hclose, hzero, hcontents 5 '0' rfl rfl hzero⟩

end WatchExpr.Subscript
