import WatchExpr.Subscript
import WatchExpr.Proofs.Blank

/-!
# Balanced texts and their masked view

A text is `Balanced` when each of its brackets has a partner in it.  Inside a subscript a balanced
text leaves the depth as it was (`depthFrom_of_balanced`), and all that is left of it in the masked
view are brackets and placeholders (`mem_maskFrom_of_balanced`).  A text without brackets is either
kept whole or left out whole (`maskFrom_of_bracketFree`).

The inductions go through `Covered n s`: with `n` subscripts open before the text, none of its
closing brackets is a stray one.
-/

namespace WatchExpr

/-- Every bracket of the text has its partner in the text. -/
structure Balanced (s : List Char) : Prop where
  /-- No part from the start on has more closing than opening brackets. -/
  count_le : ∀ t, t <+: s → t.count ']' ≤ t.count '['
  /-- The whole text has as many of the one as of the other. -/
  count_eq : s.count ']' = s.count '['

theorem balanced_iff {s : List Char} :
    Balanced s ↔ (∀ k < s.length + 1, (s.take k).count ']' ≤ (s.take k).count '[') ∧
      s.count ']' = s.count '[' := by
  constructor
  · intro h
    exact ⟨fun k _ => h.count_le _ (List.take_prefix k s), h.count_eq⟩
  · rintro ⟨hle, heq⟩
    refine ⟨fun t ht => ?_, heq⟩
    rw [List.prefix_iff_eq_take.mp ht]
    exact hle _ (Nat.lt_succ_of_le ht.length_le)

instance (s : List Char) : Decidable (Balanced s) := decidable_of_iff' _ balanced_iff

/-- The text has neither an opening nor a closing bracket. -/
def BracketFree (s : List Char) : Prop := '[' ∉ s ∧ ']' ∉ s

instance (s : List Char) : Decidable (BracketFree s) :=
  inferInstanceAs (Decidable (_ ∧ _))

theorem bracketFree_of_isBlankText {s : List Char} (h : isBlankText s = true) : BracketFree s := by
  constructor <;> intro hc <;> exact absurd (isBlankText_iff.mp h _ hc) (by decide)

theorem bracketFree_of_forall_isWord {s : List Char} (h : ∀ c ∈ s, isWord c = true) :
    BracketFree s := by
  constructor <;> intro hc <;> exact absurd (h _ hc) (by decide)

theorem bracketFree_append {s t : List Char} :
    BracketFree (s ++ t) ↔ BracketFree s ∧ BracketFree t := by
  simp only [BracketFree, List.mem_append, not_or]
  exact ⟨fun ⟨⟨h₁, h₂⟩, h₃, h₄⟩ => ⟨⟨h₁, h₃⟩, h₂, h₄⟩,
    fun ⟨⟨h₁, h₃⟩, h₂, h₄⟩ => ⟨⟨h₁, h₂⟩, h₃, h₄⟩⟩

theorem bracketFree_cons {c : Char} {s : List Char} :
    BracketFree (c :: s) ↔ (c ≠ '[' ∧ c ≠ ']') ∧ BracketFree s := by
  simp only [BracketFree, List.mem_cons, not_or, ne_eq, eq_comm]
  exact ⟨fun ⟨⟨h₁, h₂⟩, h₃, h₄⟩ => ⟨⟨h₁, h₃⟩, h₂, h₄⟩,
    fun ⟨⟨h₁, h₃⟩, h₂, h₄⟩ => ⟨⟨h₁, h₂⟩, h₃, h₄⟩⟩

namespace Subscript

variable {n : Nat} {c : Char} {s t : List Char}

/-! ### One character -/

/-- For the scan a character is an opening bracket, a closing bracket or one of the others. -/
@[elab_as_elim]
theorem bracketCases {P : Char → Prop} (opener : P '[') (closer : P ']')
    (other : ∀ c, c ≠ '[' → c ≠ ']' → P c) (c : Char) : P c := by
  by_cases hopen : c = '['
  · exact hopen ▸ opener
  · by_cases hclose : c = ']'
    · exact hclose ▸ closer
    · exact other c hopen hclose

theorem nest_open (n : Nat) : nest n '[' = n + 1 := rfl

theorem nest_close (n : Nat) : nest n ']' = n - 1 := rfl

theorem nest_of_ne (hopen : c ≠ '[') (hclose : c ≠ ']') (n : Nat) : nest n c = n := by
  rw [nest, if_neg hopen, if_neg hclose]

theorem shown_of_ne (hopen : c ≠ '[') (hclose : c ≠ ']') (n : Nat) :
    shown n c = if n = 0 then [c] else [] := by
  rw [shown, if_neg hopen, if_neg hclose]

/-- Inside a subscript a character leaves brackets and placeholders or nothing. -/
theorem mem_shown_succ {d : Char} (h : d ∈ shown (n + 1) c) :
    d = '[' ∨ d = ']' ∨ d = placeholder := by
  cases c using bracketCases with
  | opener => exact .inl (List.mem_singleton.mp h)
  | closer =>
    have hd : d ∈ [placeholder, ']'] := h
    rw [List.mem_cons, List.mem_singleton] at hd
    rcases hd with hd | hd
    · exact .inr (.inr hd)
    · exact .inr (.inl hd)
  | other c hopen hclose =>
    rw [shown_of_ne hopen hclose] at h
    cases h

/-- What is left of a closing bracket ends in it. -/
theorem exists_shown_close (n : Nat) : ∃ r, shown n ']' = r ++ [']'] := by
  cases n with
  | zero => exact ⟨[], rfl⟩
  | succ n => exact ⟨[placeholder], rfl⟩

/-- A character after which no subscript is open is the last of what is left of it. -/
theorem exists_shown_eq_append (hopen : c ≠ '[') (h : nest n c = 0) :
    ∃ r, shown n c = r ++ [c] := by
  by_cases hclose : c = ']'
  · subst hclose
    exact exists_shown_close n
  · rw [nest_of_ne hopen hclose] at h
    rw [shown_of_ne hopen hclose, h]
    exact ⟨[], rfl⟩

/-! ### Texts without brackets -/

theorem depthFrom_of_bracketFree (h : BracketFree s) (n : Nat) : depthFrom n s = n := by
  induction s with
  | nil => rfl
  | cons c s ih =>
    obtain ⟨⟨hopen, hclose⟩, hs⟩ := bracketFree_cons.mp h
    rw [depthFrom_cons, nest_of_ne hopen hclose]
    exact ih hs

/-- A text without brackets is kept outside subscripts and left out inside them. -/
theorem maskFrom_of_bracketFree (h : BracketFree s) (n : Nat) :
    maskFrom n s = if n = 0 then s else [] := by
  induction s with
  | nil => simp
  | cons c s ih =>
    obtain ⟨⟨hopen, hclose⟩, hs⟩ := bracketFree_cons.mp h
    rw [maskFrom_cons, nest_of_ne hopen hclose, ih hs, shown_of_ne hopen hclose]
    split <;> rfl

theorem mask_of_bracketFree (h : BracketFree s) : mask s = s := maskFrom_of_bracketFree h 0

theorem mask_append (s t : List Char) : mask (s ++ t) = mask s ++ maskFrom (depth s) t :=
  maskFrom_append 0 s t

/-- Where no subscript is open, the masked view goes on as at the start of a text. -/
theorem mask_append_of_depth (hs : depth s = 0) (t : List Char) :
    mask (s ++ t) = mask s ++ mask t := by
  rw [mask_append, hs, mask, mask]

/-- A text without brackets, added at the end, is kept or left out. -/
theorem mask_append_of_bracketFree (h : BracketFree t) (s : List Char) :
    mask (s ++ t) = mask s ++ t ∨ mask (s ++ t) = mask s := by
  rw [mask_append, maskFrom_of_bracketFree h]
  split
  · exact .inl rfl
  · exact .inr (List.append_nil _)

theorem mask_bracketFree_append (h : BracketFree s) (t : List Char) :
    mask (s ++ t) = s ++ mask t := by
  rw [mask_append, depth, depthFrom_of_bracketFree h, mask, maskFrom_of_bracketFree h, mask]
  rfl

theorem mask_cons (h : BracketFree [c]) (s : List Char) : mask (c :: s) = c :: mask s :=
  mask_bracketFree_append h s

theorem head?_mask (s : List Char) : (mask s).head? = s.head? := by
  cases s with
  | nil => rfl
  | cons c s =>
    rw [mask, maskFrom_cons, List.head?_cons]
    cases c using bracketCases with
    | opener => rfl
    | closer => rfl
    | other c hopen hclose =>
      rw [shown_of_ne hopen hclose]
      rfl

/-- Up to its first bracket the masked view is the text itself. -/
theorem prefix_of_prefix_mask (h : BracketFree t) (ht : t <+: mask s) : t <+: s := by
  induction t generalizing s with
  | nil => exact List.nil_prefix
  | cons d t ih =>
    obtain ⟨⟨hopen, hclose⟩, hfree⟩ := bracketFree_cons.mp h
    cases s with
    | nil => cases List.prefix_nil.mp ht
    | cons c s =>
      have hhead : c = d := by
        have hmask := head?_mask (c :: s)
        obtain ⟨r, hr⟩ := ht
        rw [← hr] at hmask
        exact (Option.some.inj hmask).symm
      subst hhead
      rw [mask, maskFrom_cons, nest_of_ne hopen hclose, shown_of_ne hopen hclose] at ht
      rw [List.cons_prefix_cons]
      exact ⟨rfl, ih hfree (List.cons_prefix_cons.mp ht).2⟩

theorem opening_mask (s : List Char) : opening (mask s) = opening s := by
  cases h : opening s with
  | none =>
    have hfree := bracketFree_of_isBlankText (opening_eq_none_iff.mp h)
    rw [mask, maskFrom_of_bracketFree hfree]
    exact h
  | some d =>
    obtain ⟨hd, u, t, hu, rfl⟩ := opening_eq_some_iff.mp h
    obtain ⟨r, hr⟩ := List.head?_eq_some_iff.mp (head?_mask (d :: t))
    rw [mask_bracketFree_append (bracketFree_of_isBlankText hu), opening_blanks_append hu, hr]
    exact opening_cons hd r

/-! ### Balanced texts -/

/-- With `n` subscripts open before the text, none of its closing brackets is a stray one. -/
def Covered (n : Nat) (s : List Char) : Prop := ∀ t, t <+: s → t.count ']' ≤ n + t.count '['

theorem covered_of_balanced (h : Balanced s) (n : Nat) : Covered n s :=
  fun t ht => Nat.le_trans (h.count_le t ht) (Nat.le_add_left ..)

/-- A closing bracket in a covered text has an open subscript to close. -/
theorem Covered.pos (h : Covered n (']' :: s)) : 0 < n := by
  have hle : 1 ≤ n + 0 := h [']'] (by simp)
  omega

/-- In a covered text each bracket changes the depth by one, and no other character does. -/
theorem nest_add_count (h : Covered n (c :: s)) :
    nest n c + [c].count ']' = n + [c].count '[' := by
  cases c using bracketCases with
  | opener => rfl
  | closer =>
    -- There is an open subscript, so that the subtraction is a proper one.
    have hpos := h.pos
    show n - 1 + 1 = n + 0
    omega
  | other c hopen hclose =>
    rw [nest_of_ne hopen hclose, List.count_eq_zero.mpr (by simpa using Ne.symm hclose),
      List.count_eq_zero.mpr (by simpa using Ne.symm hopen)]

theorem Covered.tail (h : Covered n (c :: s)) : Covered (nest n c) s := by
  intro t ht
  have hle := h (c :: t) (List.cons_prefix_cons.mpr ⟨rfl, ht⟩)
  have hnest := nest_add_count h
  rw [← List.singleton_append, List.count_append, List.count_append] at hle
  omega

/-- In a covered text the depth is the difference of the two counts. -/
theorem depthFrom_add_count (h : Covered n s) :
    depthFrom n s + s.count ']' = n + s.count '[' := by
  induction s generalizing n with
  | nil => rfl
  | cons c s ih =>
    have hs := ih h.tail
    have hnest := nest_add_count h
    rw [depthFrom_cons, ← List.singleton_append, List.count_append, List.count_append]
    omega

theorem depthFrom_of_balanced (h : Balanced s) (n : Nat) : depthFrom n s = n := by
  have hdepth := depthFrom_add_count (covered_of_balanced h n)
  have heq := h.count_eq
  omega

/-- One more subscript around a covered text stays open all through it. -/
theorem nest_succ_of_covered (h : Covered n (c :: s)) : nest (n + 1) c = nest n c + 1 := by
  cases c using bracketCases with
  | opener => rfl
  | closer =>
    have hpos := h.pos
    rw [nest_close, nest_close]
    omega
  | other c hopen hclose => rw [nest_of_ne hopen hclose, nest_of_ne hopen hclose]

/-- Inside a subscript, brackets and placeholders are all that is left of a covered text. -/
theorem mem_maskFrom_of_covered (h : Covered n s) :
    ∀ c ∈ maskFrom (n + 1) s, c = '[' ∨ c = ']' ∨ c = placeholder := by
  induction s generalizing n with
  | nil => simp
  | cons d s ih =>
    intro c hc
    rw [maskFrom_cons, nest_succ_of_covered h, List.mem_append] at hc
    rcases hc with hc | hc
    · exact mem_shown_succ hc
    · exact ih h.tail c hc

theorem mem_maskFrom_of_balanced (h : Balanced s) (n : Nat) :
    ∀ c ∈ maskFrom (n + 1) s, c = '[' ∨ c = ']' ∨ c = placeholder :=
  mem_maskFrom_of_covered (covered_of_balanced h n)

/-- The masked view of a subscript with a balanced text in it, and of what comes after it. -/
theorem maskFrom_subscript (h : Balanced s) (n : Nat) (t : List Char) :
    maskFrom n ('[' :: (s ++ ']' :: t))
      = '[' :: (maskFrom (n + 1) s ++ placeholder :: ']' :: maskFrom n t) := by
  rw [maskFrom_cons, nest_open, maskFrom_append, depthFrom_of_balanced h, maskFrom_cons, nest_close]
  rfl

end Subscript

end WatchExpr
