import WatchExpr.Proofs.Subscript

/-!
# Masked views

Which texts are masked views?  `View n s` builds them up, with `n` subscripts open before the text:
outside subscripts any character stands for itself, and inside them there are openers, and closers
with a placeholder directly before them.  Masking gives such a text (`view_maskFrom`) and leaves
such a text as it is (`maskFrom_of_view`), so that these are the texts that are their own masked
view, and masking twice is masking once (`mask_mask`).

The same is said by places (`IsView`): at each place the depth is the number of subscripts that are
open there, and it is enough to look at the characters beside the place.  The induction needs the
character before the text, which `ViewFrom` has for an argument.
-/

namespace WatchExpr.Subscript

variable {n : Nat} {c x : Char} {s : List Char}

/-! ### Built up -/

/-- A masked view with `n` subscripts open before it. -/
inductive View : Nat → List Char → Prop where
  | nil (n : Nat) : View n []
  | opener {n : Nat} {s : List Char} (h : View (n + 1) s) : View n ('[' :: s)
  /-- A closer with no opener before it. -/
  | stray {s : List Char} (h : View 0 s) : View 0 (']' :: s)
  | outside {c : Char} {s : List Char} (hopen : c ≠ '[') (hclose : c ≠ ']') (h : View 0 s) :
      View 0 (c :: s)
  | closer {n : Nat} {s : List Char} (h : View n s) : View (n + 1) (placeholder :: ']' :: s)

theorem view_maskFrom (n : Nat) (s : List Char) : View n (maskFrom n s) := by
  induction s generalizing n with
  | nil => exact .nil n
  | cons c s ih =>
    rw [maskFrom_cons]
    cases c using bracketCases with
    | opener => exact .opener (ih (n + 1))
    | closer =>
      cases n with
      | zero => exact .stray (ih 0)
      | succ n => exact .closer (ih n)
    | other c hopen hclose =>
      rw [nest_of_ne hopen hclose, shown_of_ne hopen hclose]
      cases n with
      | zero => exact .outside hopen hclose (ih 0)
      | succ n => exact ih (n + 1)

theorem maskFrom_of_view (h : View n s) : maskFrom n s = s := by
  induction h with
  | nil n => rfl
  | opener h ih => exact congrArg (List.cons '[') ih
  | stray h ih => exact congrArg (List.cons ']') ih
  | outside hopen hclose h ih =>
    rw [maskFrom_cons, nest_of_ne hopen hclose, shown_of_ne hopen hclose, ih]
    rfl
  | @closer n s h ih =>
    show placeholder :: ']' :: maskFrom n s = _
    rw [ih]

/-- The masked views are the texts that masking leaves as they are. -/
theorem maskFrom_eq_self_iff : maskFrom n s = s ↔ View n s :=
  ⟨fun h => h ▸ view_maskFrom n s, maskFrom_of_view⟩

theorem mask_mask (s : List Char) : mask (mask s) = mask s := maskFrom_of_view (view_maskFrom 0 s)

/-! ### By places -/

/-- Inside subscripts the text has nothing but brackets, and one placeholder before each closer. -/
structure IsView (s : List Char) : Prop where
  /-- Any other character is a placeholder with a closer directly after it. -/
  contents : ∀ i c, s[i]? = some c → c ≠ '[' → c ≠ ']' → 0 < depth (s.take i) →
    c = '0' ∧ s[i + 1]? = some ']'
  /-- A placeholder stands directly before each closer. -/
  closers : ∀ i, s[i]? = some ']' → 0 < depth (s.take i) → 0 < i ∧ s[i - 1]? = some '0'

/-- The same from any place on, with the character `x` before it and `n` subscripts open. -/
structure ViewFrom (x : Char) (n : Nat) (s : List Char) : Prop where
  contents : ∀ i c, s[i]? = some c → c ≠ '[' → c ≠ ']' → 0 < depthFrom n (s.take i) →
    c = placeholder ∧ s[i + 1]? = some ']'
  closers : ∀ i, s[i]? = some ']' → 0 < depthFrom n (s.take i) → (x :: s)[i]? = some placeholder

theorem viewFrom_cons :
    ViewFrom x n (c :: s) ↔
      (c ≠ '[' → c ≠ ']' → 0 < n → c = placeholder ∧ s.head? = some ']') ∧
        (c = ']' → 0 < n → x = placeholder) ∧ ViewFrom c (nest n c) s := by
  constructor
  · rintro ⟨hcontents, hclosers⟩
    refine ⟨fun hopen hclose hn => ?_, fun hc hn => ?_, fun i d => ?_, fun i => ?_⟩
    · simpa [List.head?_eq_getElem?] using hcontents 0 c rfl hopen hclose hn
    · simpa using hclosers 0 (by rw [hc]; rfl) hn
    · exact hcontents (i + 1) d
    · exact hclosers (i + 1)
  · rintro ⟨hcontents, hcloser, hrest⟩
    constructor
    · intro i d hd hopen hclose hdepth
      cases i with
      | zero =>
        obtain rfl := Option.some.inj hd
        simpa [List.head?_eq_getElem?] using hcontents hopen hclose hdepth
      | succ i => exact hrest.contents i d hd hopen hclose hdepth
    · intro i hi hdepth
      cases i with
      | zero => exact congrArg some (hcloser (Option.some.inj hi) hdepth)
      | succ i => exact hrest.closers i hi hdepth

theorem viewFrom_of_view (h : View n s) (x : Char) : ViewFrom x n s := by
  induction h generalizing x with
  | nil n =>
    constructor
    · intro i c hc
      cases hc
    · intro i hi
      cases hi
  | opener h ih => exact viewFrom_cons.mpr ⟨by simp, by simp, ih '['⟩
  | stray h ih => exact viewFrom_cons.mpr ⟨by simp, by simp, ih ']'⟩
  | @outside c s hopen hclose h ih =>
    refine viewFrom_cons.mpr ⟨by simp, by simp, ?_⟩
    rw [nest_of_ne hopen hclose]
    exact ih c
  | closer h ih =>
    refine viewFrom_cons.mpr ⟨by simp, by simp [placeholder], ?_⟩
    exact viewFrom_cons.mpr ⟨by simp, by simp, ih ']'⟩

/-- A closer at the start of the text has its placeholder before the text, where only the first
character of a `View` has one. -/
theorem view_of_viewFrom (h : ViewFrom x n s) (hx : x ≠ placeholder ∨ n = 0) : View n s := by
  -- A placeholder and its closer are taken together, so the induction is on the length.
  induction hlength : s.length using Nat.strongRecOn generalizing x n s with
  | ind l ih =>
    subst hlength
    cases s with
    | nil => exact .nil n
    | cons c s =>
      obtain ⟨hcontents, hcloser, hrest⟩ := viewFrom_cons.mp h
      cases c using bracketCases with
      | opener => exact .opener (ih s.length (Nat.lt_succ_self _) hrest (.inl (by decide)) rfl)
      | closer =>
        cases n with
        | zero => exact .stray (ih s.length (Nat.lt_succ_self _) hrest (.inr rfl) rfl)
        | succ n =>
          rcases hx with hx | hn
          · exact absurd (hcloser rfl n.succ_pos) hx
          · cases hn
      | other c hopen hclose =>
        rw [nest_of_ne hopen hclose] at hrest
        cases n with
        | zero =>
          exact .outside hopen hclose (ih s.length (Nat.lt_succ_self _) hrest (.inr rfl) rfl)
        | succ n =>
          obtain ⟨rfl, hhead⟩ := hcontents hopen hclose n.succ_pos
          obtain ⟨s, rfl⟩ := List.head?_eq_some_iff.mp hhead
          obtain ⟨-, -, hrest⟩ := viewFrom_cons.mp hrest
          have hlt : s.length < (placeholder :: ']' :: s).length := by
            simp only [List.length_cons]
            omega
          exact .closer (ih s.length hlt hrest (.inl (by decide)) rfl)

theorem isView_iff_view : IsView s ↔ View 0 s := by
  -- At the start of a text no subscript is open, so that any character will do before it.
  have hplace : ∀ i, 0 < depth (s.take i) →
      ((' ' :: s)[i]? = some placeholder ↔ 0 < i ∧ s[i - 1]? = some '0') := by
    intro i hdepth
    cases i with
    | zero => cases hdepth
    | succ i => simp [placeholder]
  constructor
  · intro h
    apply view_of_viewFrom (x := ' ') _ (.inr rfl)
    exact ⟨h.contents, fun i hi hdepth => (hplace i hdepth).mpr (h.closers i hi hdepth)⟩
  · intro h
    have hfrom := viewFrom_of_view h ' '
    exact ⟨hfrom.contents, fun i hi hdepth => (hplace i hdepth).mp (hfrom.closers i hi hdepth)⟩

theorem isView_mask (s : List Char) : IsView (mask s) := isView_iff_view.mpr (view_maskFrom 0 s)

/-- Masking twice is masking once.  The texts that masking leaves as they are, which are the masked
views, have nothing inside their subscripts but brackets, and one placeholder before each closer. -/
theorem mask_eq_self_iff (s : List Char) :
    mask (mask s) = mask s ∧ (mask s = s ↔ IsView s) ∧ ((∃ t, mask t = s) ↔ IsView s) := by
  refine ⟨mask_mask s, ?_, ?_, ?_⟩
  · rw [isView_iff_view]
    exact maskFrom_eq_self_iff
  · rintro ⟨t, rfl⟩
    exact isView_mask t
  · intro h
    exact ⟨s, maskFrom_of_view (isView_iff_view.mp h)⟩

end WatchExpr.Subscript
