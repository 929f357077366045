import WatchExpr.Proofs.Admissible
import WatchExpr.Proofs.Alike

/-!
# Verdicts on alike texts

The verdict on an expression depends on the characters in it only as far as they are not `Alike`:
any blank can stand for another, any letter be written in its other case, and any character that no
check looks for stand for another such character.  Each check is followed along two alike texts at
once: the two scans are in the same state after each character, and so they find the same.  The
masked views of alike texts are alike themselves (`forall₂_alike_maskFrom`), so that the search for
operators starts from alike texts again.

The verdicts on alike texts have the same reason and the same hint, and the parts of them that are
texts are alike (`classify_of_forall₂_alike`).
-/

namespace WatchExpr

variable {s t : List Char}

/-! ### Literals -/

namespace Literal

theorem isDigits_eq_of_forall₂ (h : List.Forall₂ Alike s t) : isDigits s = isDigits t := by
  rw [isDigits, isDigits, isEmpty_eq_of_forall₂ h,
    all_eq_of_forall₂ (fun _ _ => Alike.isDigit_eq) h]

theorem isHexDigits_eq_of_forall₂ (h : List.Forall₂ Alike s t) : isHexDigits s = isHexDigits t := by
  rw [isHexDigits, isHexDigits, isEmpty_eq_of_forall₂ h,
    all_eq_of_forall₂ (fun _ _ => Alike.isHexDigit_eq) h]

theorem isUnsignedDecimal_eq_of_forall₂ (h : List.Forall₂ Alike s t) :
    isUnsignedDecimal s = isUnsignedDecimal t := by
  refine eq_of_forall₂_alike (fun x y hxy hx => ?_) h
  rw [isUnsignedDecimal_iff] at hx ⊢
  rcases hx with hx | ⟨whole, fraction, hwhole, hfraction, rfl⟩
  · exact .inl (isDigits_eq_of_forall₂ hxy ▸ hx)
  · obtain ⟨whole', rest, rfl, hwhole', hrest⟩ := exists_append_of_forall₂ hxy
    cases hrest with
    | @cons _ d _ fraction' hpoint hfraction' =>
      obtain rfl : d = '.' := (hpoint.eq_iff (by decide)).mp rfl
      exact .inr ⟨whole', fraction', isDigits_eq_of_forall₂ hwhole' ▸ hwhole,
        isDigits_eq_of_forall₂ hfraction' ▸ hfraction, rfl⟩

theorem forall₂_alike_unsigned (h : List.Forall₂ Alike s t) :
    List.Forall₂ Alike (unsigned s) (unsigned t) := by
  cases h with
  | nil => exact .nil
  | @cons c d s t hcd hst =>
    have hdash := hcd.eq_iff (k := '-') (by decide)
    by_cases hd : d = '-'
    · rw [hdash.mpr hd, hd]
      exact hst
    · rw [unsigned_cons_of_ne (mt hdash.mp hd), unsigned_cons_of_ne hd]
      exact .cons hcd hst

theorem isHexadecimal_eq_of_forall₂ (h : List.Forall₂ Alike s t) :
    isHexadecimal s = isHexadecimal t := by
  have hmark : ∀ c : Char, c = 'x' ∨ c = 'X' ↔ c.toLower = 'x' := by
    intro c
    have hupper : c = 'X' ↔ c.toNat + 32 = 'x'.toNat := by
      rw [← Char.toNat_inj]
      exact Nat.add_right_cancel_iff.symm
    rw [toLower_eq_iff (by decide), hupper]
  refine eq_of_forall₂_alike (fun x y hxy hx => ?_) h
  rw [isHexadecimal_iff] at hx ⊢
  obtain ⟨mark, digits, hx, hdigits, rfl⟩ := hx
  cases hxy with
  | @cons _ z _ _ hzero hrest =>
    cases hrest with
    | @cons _ mark' _ digits' halike hdigits' =>
      obtain rfl : z = '0' := (hzero.eq_iff (by decide)).mp rfl
      refine ⟨mark', digits', ?_, isHexDigits_eq_of_forall₂ hdigits' ▸ hdigits, rfl⟩
      rwa [hmark, ← halike.toLower_eq_iff (by decide), ← hmark]

theorem isNumeric_eq_of_forall₂ (h : List.Forall₂ Alike s t) : isNumeric s = isNumeric t := by
  rw [isNumeric, isNumeric, isDecimal, isDecimal,
    isUnsignedDecimal_eq_of_forall₂ (forall₂_alike_unsigned h), isHexadecimal_eq_of_forall₂ h]

theorem isQuoted_eq_of_forall₂ (h : List.Forall₂ Alike s t) : isQuoted s = isQuoted t := by
  rw [Bool.eq_iff_iff, isQuoted_iff, isQuoted_iff, head?_eq_some_iff_of_forall₂ h (by decide),
    head?_eq_some_iff_of_forall₂ h (by decide)]

end Literal

/-! ### Calls and parentheses -/

theorem Alike.callee_step_eq {c d : Char} (h : Alike c d) (k : Callee) : k.step c = k.step d := by
  rw [Callee.step, Callee.step, h.isDigit_eq, h.isNameStart_eq, h.isBlank_eq]

theorem hasCallFrom_eq_of_forall₂ (h : List.Forall₂ Alike s t) (k : Callee) :
    Callee.hasCallFrom k s = Callee.hasCallFrom k t := by
  induction h generalizing k with
  | nil => rfl
  | cons hcd _ ih =>
    rw [Callee.hasCallFrom_cons, Callee.hasCallFrom_cons, hcd.beq_eq (by decide),
      hcd.callee_step_eq, ih]

theorem hasLeadingParen_eq_of_forall₂ (h : List.Forall₂ Alike s t) :
    hasLeadingParen s = hasLeadingParen t := by
  rw [hasLeadingParen, hasLeadingParen, Bool.eq_iff_iff, beq_iff_eq, beq_iff_eq]
  exact head?_eq_some_iff_of_forall₂ (forall₂_alike_trimStart h) (by decide)

theorem formRefusal?_eq_of_forall₂ (h : List.Forall₂ Alike s t) :
    formRefusal? s = formRefusal? t := by
  rw [formRefusal?_eq, formRefusal?_eq, Literal.isNumeric_eq_of_forall₂ h,
    Literal.isQuoted_eq_of_forall₂ h, hasCall, hasCall, hasCallFrom_eq_of_forall₂ h,
    hasLeadingParen_eq_of_forall₂ h]

/-! ### Operators -/

theorem isSingular_of_mem_operatorChars {k : Char} (hk : k ∈ operatorChars) :
    Alike.isSingular k = true := by
  have hall : operatorChars.all Alike.isSingular = true := by decide
  exact List.all_eq_true.mp hall k hk

theorem isPrefixOf_eq_of_forall₂ {p : List Char} (hp : ∀ k ∈ p, Alike.isSingular k = true)
    (h : List.Forall₂ Alike s t) : p.isPrefixOf s = p.isPrefixOf t := by
  induction p generalizing s t with
  | nil => simp
  | cons k p ih =>
    cases h with
    | nil => rfl
    | cons hcd hst =>
      have hk := hcd.beq_eq (hp k (List.mem_cons_self ..))
      rw [List.isPrefixOf_cons_cons, List.isPrefixOf_cons_cons, Bool.beq_comm, hk, Bool.beq_comm,
        ih (fun k hk => hp k (List.mem_cons_of_mem _ hk)) hst]

theorem occursFrom_eq_of_forall₂ (op : Operator) (h : List.Forall₂ Alike s t) (b : Bool) :
    op.occursFrom b s = op.occursFrom b t := by
  have hsymbol : ∀ k ∈ op.symbol, Alike.isSingular k = true := fun k hk =>
    isSingular_of_mem_operatorChars (Operator.mem_operatorChars_of_mem_symbol hk)
  induction h generalizing b with
  | nil => rfl
  | cons hcd hst ih =>
    rw [Operator.occursFrom_cons, Operator.occursFrom_cons, ih, hcd.beq_eq (by decide),
      isPrefixOf_eq_of_forall₂ hsymbol (.cons hcd hst)]

theorem joinsFrom_eq_of_forall₂ {sign : Char} (hsign : sign ∈ jointSigns)
    (h : List.Forall₂ Alike s t) (j : Joint) :
    Joint.joinsFrom sign j s = Joint.joinsFrom sign j t := by
  have hsingular := isSingular_of_mem_operatorChars (mem_operatorChars_of_mem_jointSigns hsign)
  induction h generalizing j with
  | nil => rfl
  | @cons c d s t hcd _ ih =>
    have hstep : j.step sign c = j.step sign d := by
      rw [Joint.step, Joint.step, hcd.isOperandEnd_eq, hcd.isBlank_eq]
      simp only [hcd.eq_iff hsingular]
    rw [Joint.joinsFrom_cons, Joint.joinsFrom_cons, hcd.isWord_eq, hstep, ih]

theorem operatorRefusal?_eq_of_forall₂ (h : List.Forall₂ Alike s t) :
    operatorRefusal? s = operatorRefusal? t := by
  refine operatorRefusal?_congr (fun op => occursFrom_eq_of_forall₂ op h false)
    (fun sign hsign => joinsFrom_eq_of_forall₂ hsign h .nothing) fun c hc => ?_
  exact mem_iff_of_forall₂ h
    (isSingular_of_mem_operatorChars (mem_operatorChars_of_mem_computingMarks hc))

/-! ### The masked view -/

theorem forall₂_alike_shown {c d : Char} (h : Alike c d) (n : Nat) :
    List.Forall₂ Alike (Subscript.shown n c) (Subscript.shown n d) := by
  simp only [Subscript.shown, h.eq_iff (k := '[') (by decide), h.eq_iff (k := ']') (by decide)]
  split_ifs
  any_goals exact List.forall₂_refl _
  exact .cons h .nil

/-- The brackets of alike texts are the same, and so is what they mask out. -/
theorem forall₂_alike_maskFrom (h : List.Forall₂ Alike s t) (n : Nat) :
    List.Forall₂ Alike (Subscript.maskFrom n s) (Subscript.maskFrom n t) := by
  induction h generalizing n with
  | nil => exact .nil
  | @cons c d s t hcd _ ih =>
    have hnest : Subscript.nest n c = Subscript.nest n d := by
      simp only [Subscript.nest, hcd.eq_iff (k := '[') (by decide),
        hcd.eq_iff (k := ']') (by decide)]
    rw [Subscript.maskFrom_cons, Subscript.maskFrom_cons, hnest]
    exact List.rel_append (forall₂_alike_shown hcd n) (ih _)

/-! ### The verdict -/

/-- Alike texts are judged alike. -/
theorem judge_of_forall₂_alike (h : List.Forall₂ Alike s t) :
    (Verdict.judge s).2 = (Verdict.judge t).2 ∧
      Option.Rel (List.Forall₂ Alike) (Verdict.judge s).1 (Verdict.judge t).1 := by
  have hmask : List.Forall₂ Alike (Subscript.mask s) (Subscript.mask t) :=
    forall₂_alike_maskFrom h 0
  rw [Verdict.judge_eq, Verdict.judge_eq, isEmpty_eq_of_forall₂ h, formRefusal?_eq_of_forall₂ h]
  split_ifs
  · exact ⟨rfl, .none⟩
  · cases formRefusal? t with
    | some r => exact ⟨rfl, .none⟩
    | none =>
      refine ⟨?_, .some hmask⟩
      show (operatorRefusal? (Subscript.mask s)).getD _
        = (operatorRefusal? (Subscript.mask t)).getD _
      rw [operatorRefusal?_eq_of_forall₂ hmask]

/-- The verdicts on two alike texts agree in all but the characters of their texts, and these are
alike. -/
theorem classify_of_forall₂_alike {e₁ e₂ : List Char} (h : List.Forall₂ Alike e₁ e₂) :
    let v₁ := classify (.text e₁)
    let v₂ := classify (.text e₂)
    v₁.editable = v₂.editable ∧ v₁.reason = v₂.reason ∧ v₁.detail = v₂.detail ∧
      v₁.letter = v₂.letter ∧ v₁.displayFormat = v₂.displayFormat ∧
      List.Forall₂ Alike v₁.base v₂.base ∧
      Option.Rel (List.Forall₂ Alike) v₁.masked v₂.masked := by
  intro v₁ v₂
  obtain ⟨hsplit, hletter⟩ := forall₂_alike_splitSuffix h
  have hbase : List.Forall₂ Alike v₁.base v₂.base := forall₂_alike_trim hsplit
  obtain ⟨hreason, hmasked⟩ := judge_of_forall₂_alike hbase
  have hreason' : v₁.reason = v₂.reason := hreason
  have hletter' : v₁.letter = v₂.letter := hletter
  refine ⟨?_, hreason', ?_, hletter', ?_, hbase, hmasked⟩
  · rw [Verdict.editable, Verdict.editable, hreason']
  · rw [Verdict.detail, Verdict.detail, hreason']
  · rw [Verdict.displayFormat, Verdict.displayFormat, hletter']

/-- An element of an array, with another blank before it, its name and its hint in the other case,
and a sign in place of a letter that is not ASCII. -/
theorem classify_of_forall₂_alike_element :
    List.Forall₂ Alike [' ', 'p', '[', 'é', ']', ',', 'X'] ['\t', 'P', '[', '@', ']', ',', 'x'] ∧
      (classify (.text [' ', 'p', '[', 'é', ']', ',', 'X'])).reason
        = (classify (.text ['\t', 'P', '[', '@', ']', ',', 'x'])).reason ∧
      List.Forall₂ Alike (classify (.text [' ', 'p', '[', 'é', ']', ',', 'X'])).base
        (classify (.text ['\t', 'P', '[', '@', ']', ',', 'x'])).base := by
  have h : List.Forall₂ Alike [' ', 'p', '[', 'é', ']', ',', 'X']
      ['\t', 'P', '[', '@', ']', ',', 'x'] :=
    .cons (.blank (by decide) (by decide)) <| .cons (.letter (by decide) (by decide) (by decide)) <|
    .cons (.same _) <| .cons (.inert (by decide) (by decide)) <| .cons (.same _) <|
    .cons (.same _) <| .cons (.letter (by decide) (by decide) (by decide)) .nil
  obtain ⟨-, hreason, -, -, -, hbase, -⟩ := classify_of_forall₂_alike h
  exact ⟨h, hreason, hbase⟩

end WatchExpr
