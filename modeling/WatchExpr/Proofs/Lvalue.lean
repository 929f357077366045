import Mathlib.Logic.Relation
import WatchExpr.Proofs.Admissible

/-!
# Building editable expressions

The steps by which a longer expression is built from an expression (`LvalueStep`): a member of it,
an element of it, what it points to, its address, blanks around it, a display hint after it.  Every
name is editable, and each step leads from an editable expression to an editable one, whatever the
text of the first is (`editable_closed_under_lvalueStep`); so every expression that is built from a
name is editable.

Each step is first followed on texts that name a location: `NamesLocation` is kept when blanks, a
selector and a name, or a subscript come after a text, and when a blank, `*` or `&` comes before it.
-/

namespace WatchExpr

variable {a b c m u w : List Char} {sel : List Char}

/-! ### Steps -/

/-- What stands between an expression and the name of a member. -/
def selectors : List (List Char) := [['.'], ['-', '>']]

/-- One step in building an expression from another. -/
inductive LvalueStep : List Char → List Char → Prop where
  /-- A member of `a`, or of what `a` points to. -/
  | select (a u sel w m : List Char) (hsel : sel ∈ selectors) (hu : isBlankText u = true)
      (hw : isBlankText w = true) (hm : isName m = true) :
      LvalueStep a (a ++ (u ++ (sel ++ (w ++ m))))
  /-- An element of `a`. -/
  | subscript (a u c : List Char) (hu : isBlankText u = true) (hbalanced : Balanced c)
      (hcall : ¬ HoldsCall c) : LvalueStep a (a ++ (u ++ '[' :: (c ++ [']'])))
  /-- What `a` points to. -/
  | dereference (a w : List Char) (hw : isBlankText w = true) : LvalueStep a ('*' :: (w ++ a))
  /-- The address of `a`; two ampersands next to each other are another operator. -/
  | address (a w : List Char) (hw : isBlankText w = true)
      (hand : ¬ (w = [] ∧ a.head? = some '&')) : LvalueStep a ('&' :: (w ++ a))
  /-- Blanks before `a`. -/
  | indent (a u : List Char) (hu : isBlankText u = true) : LvalueStep a (u ++ a)
  /-- Blanks after `a`. -/
  | trail (a u : List Char) (hu : isBlankText u = true) : LvalueStep a (a ++ u)
  /-- A display hint after `a`. -/
  | hint (a : List Char) (l : Char) (hl : l ∈ hintLetters) : LvalueStep a (a ++ [',', l])

theorem selector_ne_nil (hsel : sel ∈ selectors) : sel ≠ [] :=
  ne_of_mem_of_not_mem hsel (by decide)

/-- The characters of a selector are neither word characters nor blanks nor brackets nor commas. -/
theorem plain_of_mem_selector {x : Char} (hsel : sel ∈ selectors) (hx : x ∈ sel) :
    isWord x = false ∧ isBlank x = false ∧ x ∉ ['[', ']', ','] ∧ x ∉ refusedOpenings := by
  simp only [selectors, List.mem_cons, List.not_mem_nil, or_false] at hsel
  rcases hsel with rfl | rfl
  · rw [List.mem_singleton.mp hx]
    decide
  · rcases List.mem_cons.mp hx with rfl | hx
    · decide
    · rw [List.mem_singleton.mp hx]
      decide

theorem bracketFree_of_mem_selectors (hsel : sel ∈ selectors) : BracketFree sel := by
  constructor <;> intro hc <;> exact absurd (plain_of_mem_selector hsel hc).2.2.1 (by decide)

theorem bracketFree_of_isName (hm : isName m = true) : BracketFree m :=
  bracketFree_of_forall_isWord (isWord_of_isName hm)

theorem operatorFree_of_isName (hm : isName m = true) : OperatorFree m :=
  operatorFree_of_forall fun c hc => notMem_operatorChars_of_isWord (isWord_of_isName hm c hc)

/-- A selector divides a text as a separator does. -/
theorem operatorFree_append_selector_iff (hsel : sel ∈ selectors) :
    OperatorFree (a ++ (sel ++ b)) ↔ OperatorFree a ∧ OperatorFree b := by
  simp only [selectors, List.mem_cons, List.not_mem_nil, or_false] at hsel
  rcases hsel with rfl | rfl
  · exact operatorFree_append_cons_iff separator_point
  · exact operatorFree_append_arrow_iff

/-- A subscript brings no operator, whatever stands in it. -/
theorem operatorFree_mask_append_subscript (ha : OperatorFree (Subscript.mask a))
    (hc : Balanced c) : OperatorFree (Subscript.mask (a ++ '[' :: (c ++ [']']))) := by
  rw [Subscript.mask_append, Subscript.maskFrom_subscript hc,
    operatorFree_append_cons_iff separator_bracket]
  refine ⟨ha, operatorFree_of_forall fun x hx => ?_⟩
  -- Nothing is left of the subscript but brackets and placeholders.
  have hleft : x = '[' ∨ x = ']' ∨ x = Subscript.placeholder := by
    simp only [List.mem_append, List.mem_cons, Subscript.maskFrom_nil, List.not_mem_nil,
      or_false] at hx
    rcases hx with hx | hx | hx
    · exact Subscript.mem_maskFrom_of_balanced hc _ x hx
    · exact .inr (.inr hx)
    · exact .inr (.inl hx)
  rcases hleft with rfl | rfl | rfl <;> decide

/-! ### Texts that name a location -/

namespace NamesLocation

/-- A text names a location if it does without its display hint. -/
theorem of_splitSuffix (h : NamesLocation (splitSuffix a).1) : NamesLocation a := by
  refine ⟨h.toAdmissible.of_splitSuffix, ?_, ?_⟩
  · rcases splitSuffix_fst_cases a with ha | ⟨x, -, ha⟩
    · rw [← ha]
      exact h.notBlank
    · rw [ha]
      exact isBlankText_eq_false_of_mem (show isBlank ',' = false by decide) (by simp)
  · rcases splitSuffix_fst_cases a with ha | ⟨x, -, ha⟩
    · rw [← ha]
      exact h.notNumeric
    -- The comma of the hint is in no number.
    · rw [ha]
      exact isNumeric_trim_of_mem (show ',' ∈ _ by simp) (by decide) (by decide) (by decide)
        (by decide)

theorem blanks_append (h : NamesLocation a) (hu : isBlankText u = true) :
    NamesLocation (u ++ a) := by
  refine ⟨(admissible_blanks_append_iff hu).mpr h.toAdmissible, ?_, ?_⟩
  · rw [Bool.eq_false_iff, ne_eq, isBlankText_append, hu, h.notBlank]
    decide
  · rw [trim_blanks_append hu]
    exact h.notNumeric

theorem append_blanks (h : NamesLocation a) (hu : isBlankText u = true) :
    NamesLocation (a ++ u) := by
  refine ⟨(admissible_append_blanks_iff hu).mpr h.toAdmissible, ?_, ?_⟩
  · rw [Bool.eq_false_iff, ne_eq, isBlankText_append, hu, h.notBlank]
    decide
  · rw [trim_append_blanks hu]
    exact h.notNumeric

/-- A sign before a text takes the text as its operand. -/
theorem sign_cons {sign : Char} (h : NamesLocation a) (hsign : sign = '*' ∨ sign = '&')
    (hand : sign = '&' → a.head? ≠ some '&') : NamesLocation (sign :: a) := by
  have hclass : isBlank sign = false ∧ isWord sign = false ∧ BracketFree [sign] ∧
      sign ∉ refusedOpenings ∧ sign ≠ '-' ∧ sign ≠ '.' := by
    rcases hsign with rfl | rfl <;> decide
  obtain ⟨hblank, hword, hbracket, hopening, hdash, hpoint⟩ := hclass
  have hoperator : OperatorFree (sign :: Subscript.mask a) := by
    rcases hsign with rfl | rfl
    · exact operatorFree_star_cons_iff.mpr h.operatorFree
    · refine (operatorFree_ampersand_cons_iff ?_).mpr h.operatorFree
      rw [Subscript.head?_mask]
      exact hand rfl
  refine ⟨h.toAdmissible.cons hopening hblank hword hbracket hoperator, ?_, ?_⟩
  · exact isBlankText_eq_false_of_mem hblank (List.mem_cons_self ..)
  · exact isNumeric_trim_of_mem (List.mem_cons_self ..) hword hblank hdash hpoint

theorem append_select (h : NamesLocation a) (hsel : sel ∈ selectors) (hw : isBlankText w = true)
    (hm : isName m = true) : NamesLocation (a ++ (sel ++ (w ++ m))) := by
  have hname : ∀ c ∈ m, isWord c = true := isWord_of_isName hm
  obtain ⟨x, hx⟩ := List.exists_mem_of_ne_nil sel (selector_ne_nil hsel)
  obtain ⟨hxword, hxblank, -, -⟩ := plain_of_mem_selector hsel hx
  have hplain : ∀ c ∈ w ++ m, c ∉ operatorChars ∧ c ∉ refusedOpenings := by
    intro c hc
    rcases List.mem_append.mp hc with hc | hc
    · have hblank := isBlankText_iff.mp hw c hc
      exact ⟨notMem_operatorChars_of_isBlank hblank, notMem_refusedOpenings_of_isBlank hblank⟩
    · have hword := hname c hc
      exact ⟨notMem_operatorChars_of_isWord hword, notMem_refusedOpenings_of_isWord hword⟩
  refine ⟨h.toAdmissible.append ?_ ?_ ?_, ?_, ?_⟩
  · exact bracketFree_append.mpr ⟨bracketFree_of_mem_selectors hsel, bracketFree_append.mpr
      ⟨bracketFree_of_isBlankText hw, bracketFree_of_forall_isWord hname⟩⟩
  · intro c hc
    rcases List.mem_append.mp hc with hc | hc
    · exact (plain_of_mem_selector hsel hc).2.2.2
    · exact (hplain c hc).2
  · have htail : OperatorFree (w ++ m) := operatorFree_of_forall fun c hc => (hplain c hc).1
    exact fun y hy => (operatorFree_append_selector_iff hsel).mpr ⟨hy, htail⟩
  · exact isBlankText_eq_false_of_mem hxblank (by simp [hx])
  -- A number with a sign or a point in it has no letter, and the name begins with one.
  · rw [Bool.eq_false_iff]
    intro hnumeric
    cases m with
    | nil => cases hm
    | cons d m =>
      have hd : isNameStart d = true := (Bool.and_eq_true_iff.mp hm).1
      have hdblank := isBlank_of_isWord (isWord_of_isNameStart hd)
      rw [Literal.isNameStart_of_not_isWord_mem hnumeric hxword (mem_trim hxblank (by simp [hx]))
        (mem_trim hdblank (by simp))] at hd
      cases hd

theorem append_subscript (h : NamesLocation a) (hbalanced : Balanced c)
    (hcall : hasCall c = false) : NamesLocation (a ++ '[' :: (c ++ [']'])) := by
  refine ⟨⟨?_, ?_, ?_⟩, ?_, ?_⟩
  · rw [opening_append_of_not_blank h.notBlank]
    exact h.opening
  · rw [hasCall_append_cons (by decide) (by decide) (by decide),
      hasCall_append_cons (by decide) (by decide) (by decide), h.callFree, hcall]
    rfl
  · exact operatorFree_mask_append_subscript h.operatorFree hbalanced
  · exact isBlankText_eq_false_of_mem (show isBlank '[' = false by decide) (by simp)
  · exact isNumeric_trim_of_mem (show '[' ∈ _ by simp) (by decide) (by decide) (by decide)
      (by decide)

end NamesLocation

/-! ### Editable expressions -/

theorem namesLocation_of_isName (hm : isName m = true) : NamesLocation m := by
  have hword := isWord_of_isName hm
  cases m with
  | nil => cases hm
  | cons d m =>
    have hd : isNameStart d = true := (Bool.and_eq_true_iff.mp hm).1
    have hblank := isBlank_of_isWord (isWord_of_isNameStart hd)
    have hnotMem : '(' ∉ d :: m := notMem_of_isName (by decide) hm
    refine ⟨⟨fun c hc => ?_, ?_, ?_⟩, ?_, ?_⟩
    · rw [opening_cons hblank] at hc
      exact notMem_refusedOpenings_of_isWord (hword c (by simp [Option.some.inj hc]))
    · exact Callee.hasCallFrom_eq_false hnotMem .absent
    · rw [Subscript.mask_of_bracketFree (bracketFree_of_isName hm)]
      exact operatorFree_of_isName hm
    · exact isBlankText_eq_false_of_mem hblank (List.mem_cons_self ..)
    · rw [Bool.eq_false_iff]
      intro hnumeric
      have htrim : trim (d :: m) = d :: trimEnd m := trim_append_cons hblank [] m
      rw [htrim] at hnumeric
      rw [Literal.isNameStart_of_isNumeric_cons hnumeric] at hd
      cases hd

theorem editable_of_isName (hm : isName m = true) : (classify (.text m)).editable = true := by
  have hcomma : ',' ∉ m := notMem_of_isName (by decide) hm
  rw [editable_iff_namesLocation, splitSuffix_of_comma_notMem hcomma]
  exact namesLocation_of_isName hm

/-- No display hint is made by a name that comes after a selector. -/
theorem splitSuffix_select (hsel : sel ∈ selectors) (hw : isBlankText w = true)
    (hm : isName m = true) (s : List Char) :
    (splitSuffix (s ++ (sel ++ (w ++ m)))).1 = s ++ (sel ++ (w ++ m)) := by
  have hcomma : ',' ∉ w ++ m := by
    rw [List.mem_append, not_or]
    exact ⟨notMem_of_isBlankText (by decide) hw, notMem_of_isName (by decide) hm⟩
  -- The last character of the selector is neither a comma nor a letter.
  obtain ⟨p, x, rfl⟩ := List.eq_nil_or_concat sel |>.resolve_left (selector_ne_nil hsel)
  have hlast : x ∈ p.concat x := by simp
  obtain ⟨hword, -, hplain, -⟩ := plain_of_mem_selector hsel hlast
  have hne : x ≠ ',' := (ne_of_mem_of_not_mem (by decide) hplain).symm
  have hassoc : s ++ (p.concat x ++ (w ++ m)) = (s ++ p) ++ x :: (w ++ m) := by simp
  rw [hassoc, splitSuffix_append_cons (ofChar?_eq_none_of_isWord hword) hne,
    splitSuffix_of_comma_notMem hcomma]

/-- A step leads from an editable expression to an editable one. -/
theorem editable_of_lvalueStep (h : LvalueStep a b) (ha : (classify (.text a)).editable = true) :
    (classify (.text b)).editable = true := by
  rw [editable_iff_namesLocation] at ha ⊢
  have hwhole := ha.of_splitSuffix
  have hcomma : ∀ {v : List Char}, isBlankText v = true → ',' ∉ v :=
    notMem_of_isBlankText (by decide)
  cases h with
  | select u sel w m hsel hu hw hm =>
    rw [← List.append_assoc, splitSuffix_select hsel hw hm]
    exact (hwhole.append_blanks hu).append_select hsel hw hm
  | subscript u c hu hbalanced hcall =>
    have hlast : a ++ (u ++ '[' :: (c ++ [']'])) = (a ++ (u ++ '[' :: c)) ++ [']'] := by simp
    rw [hlast, splitSuffix_append_singleton rfl, ← hlast, ← List.append_assoc]
    refine (hwhole.append_blanks hu).append_subscript hbalanced ?_
    rw [Bool.eq_false_iff, ne_eq, hasCall_iff]
    exact hcall
  -- Text in front of an expression brings no comma here: the display hint stays where it is.
  | dereference w hw =>
    have hsign : ',' ∉ '*' :: w := by simpa using hcomma hw
    rw [← List.cons_append, splitSuffix_append_of_comma_notMem hsign]
    exact (ha.blanks_append hw).sign_cons (.inl rfl) fun h => absurd h (by decide)
  | address w hw hand =>
    have hsign : ',' ∉ '&' :: w := by simpa using hcomma hw
    rw [← List.cons_append, splitSuffix_append_of_comma_notMem hsign]
    refine (ha.blanks_append hw).sign_cons (.inr rfl) fun _ hhead => ?_
    cases w with
    | nil => exact hand ⟨rfl, head?_of_head?_splitSuffix hhead⟩
    | cons x w =>
      rw [List.cons_append, List.head?_cons] at hhead
      have hx := isBlankText_iff.mp hw x (List.mem_cons_self ..)
      rw [Option.some.inj hhead] at hx
      exact absurd hx (by decide)
  | indent u hu =>
    rw [splitSuffix_append_of_comma_notMem (hcomma hu)]
    exact ha.blanks_append hu
  | trail u hu =>
    by_cases hne : u = []
    · rwa [hne, List.append_nil]
    -- With a blank after it, a display hint of `a` becomes part of the expression.
    · rw [splitSuffix_append_blanks hu hne]
      exact hwhole.append_blanks hu
  | hint l hl =>
    obtain ⟨letter, hletter⟩ := ofChar?_isSome_of_mem hl
    rw [splitSuffix_append a hletter]
    exact hwhole

/-- Every name is editable, and the editable expressions are closed under the steps; so every
expression that is built from a name, in any number of steps, is editable. -/
theorem editable_closed_under_lvalueStep :
    (∀ m, isName m = true → (classify (.text m)).editable = true) ∧
      (∀ a b, LvalueStep a b → (classify (.text a)).editable = true →
        (classify (.text b)).editable = true) ∧
      ∀ m b, isName m = true → Relation.ReflTransGen LvalueStep m b →
        (classify (.text b)).editable = true := by
  refine ⟨fun m => editable_of_isName, fun a b => editable_of_lvalueStep, fun m b hm hrun => ?_⟩
  induction hrun with
  | refl => exact editable_of_isName hm
  | tail _ hstep ih => exact editable_of_lvalueStep hstep ih

/-- An element of an expression that keeps its display hint in the middle: `p,x [i[j]+1]`. -/
theorem editable_subscript_after_hint :
    LvalueStep ['p', ',', 'x']
        ['p', ',', 'x', ' ', '[', 'i', '[', 'j', ']', '+', '1', ']'] ∧
      (classify (.text ['p', ',', 'x'])).editable = true ∧
      (classify (.text ['p', ',', 'x', ' ', '[', 'i', '[', 'j', ']', '+', '1', ']'])).editable
        = true := by
  have hstep : LvalueStep ['p', ',', 'x'] (['p', ',', 'x'] ++ ([' '] ++
      '[' :: (['i', '[', 'j', ']', '+', '1'] ++ [']']))) :=
    .subscript _ _ _ (by decide) (by decide) fun h => absurd (hasCall_iff.mpr h) (by decide)
  have hhint : LvalueStep ['p'] (['p'] ++ [',', 'x']) := .hint _ _ (by decide)
  obtain ⟨hname, hclosed, -⟩ := editable_closed_under_lvalueStep
  have ha := hclosed _ _ hhint (hname ['p'] (by decide))
  exact ⟨hstep, ha, hclosed _ _ hstep ha⟩

end WatchExpr
