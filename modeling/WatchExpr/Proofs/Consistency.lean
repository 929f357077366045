import Mathlib.Data.List.Nodup
import WatchExpr.Value.Request
import WatchExpr.Verdict.Record

/-!
# Records that agree with themselves

A record has eight fields, which are filled in at different points of the judgment, and two of them
are looked up in tables by what stands in another one.  No look-up fails, and what is filled in is
the verdict (`ofValue_eq`): each field is filled in, or its default is what the verdict says.

`Record.Consistent` says what the fields of one record have to do with each other, whatever was
judged; `Record.Describes` says what they have to do with the text that was judged, and how the
reason tells at which check the judgment ended.  The record of every value is such a record
(`ofValue_consistent`).

The checks come in three stages, and no reason belongs to two of them: nothing is left to check, the
form of the text is refused (`formReasons`), or the operators of the masked view are looked for
(`maskedReasons`).  So the masked view is part of a record exactly when the reason says so.
-/

namespace WatchExpr

variable {s : List Char} {r : Reason}

/-! ### Codes -/

/-- What no two reasons in the list of all have in common, no two reasons have. -/
theorem injective_of_nodup_reasons {α : Type} {f : Reason → α} (h : (Reason.all.map f).Nodup) :
    Function.Injective f :=
  fun a b => List.inj_on_of_nodup_map h (Reason.mem_all a) (Reason.mem_all b)

/-- No two reasons have the same code. -/
theorem code_injective : Function.Injective fun r : Reason => r.code.toList :=
  injective_of_nodup_reasons (by decide)

/-! ### The stages of the judgment -/

/-- The reasons for which the form of a text is refused. -/
def formReasons : List Reason := [.numericLiteral, .quotedLiteral, .call, .parenthesized]

/-- The reasons for which an operator is refused. -/
def operatorReasons : List Reason :=
  [.binaryOperator, .subtraction, .multiplication, .bitwiseAnd, .bitwiseOr, .bitwiseNot,
    .logicalNot]

/-- The reasons for which there is a masked view: those of the operators, and the one of a text in
which none was found. -/
def maskedReasons : List Reason := .lvalue :: operatorReasons

theorem mem_formReasons_of_formRefusal? (h : formRefusal? s = some r) : r ∈ formReasons := by
  unfold formRefusal? at h
  split_ifs at h <;> cases h <;> decide

theorem mem_operatorReasons_of_operatorRefusal? (h : operatorRefusal? s = some r) :
    r ∈ operatorReasons := by
  unfold operatorRefusal? at h
  split_ifs at h <;> cases h <;> decide

/-- What is left of a search for operators is one of the reasons with a masked view. -/
theorem getD_operatorRefusal?_mem (s : List Char) :
    (operatorRefusal? s).getD .lvalue ∈ maskedReasons := by
  cases h : operatorRefusal? s with
  | none => decide
  | some r => exact List.mem_cons_of_mem _ (mem_operatorReasons_of_operatorRefusal? h)

/-- A refusal of the form is told from the other ends of a judgment by its reason. -/
theorem notMem_of_mem_formReasons (h : r ∈ formReasons) : r ∉ maskedReasons ∧ r ≠ .empty := by
  have hall : ∀ q ∈ formReasons, q ∉ maskedReasons ∧ q ≠ .empty := by decide
  exact hall r h

/-- The three ways in which a judgment ends. -/
inductive Judgment (base : List Char) : Option (List Char) × Reason → Prop where
  /-- There is nothing to judge. -/
  | empty (h : base = []) : Judgment base (none, .empty)
  /-- The form of the text is refused. -/
  | form (h : base ≠ []) (r : Reason) (hr : formRefusal? base = some r) : Judgment base (none, r)
  /-- The operators of the masked view decide. -/
  | operators (h : base ≠ []) (hform : formRefusal? base = none) :
      Judgment base
        (some (Subscript.mask base), (operatorRefusal? (Subscript.mask base)).getD .lvalue)

theorem judgment_judge (base : List Char) : Judgment base (Verdict.judge base) := by
  rw [Verdict.judge_eq]
  split_ifs with h
  · exact .empty (List.isEmpty_iff.mp h)
  · have hne : base ≠ [] := mt List.isEmpty_iff.mpr h
    cases hform : formRefusal? base with
    | some r => exact .form hne r hform
    | none => exact .operators hne hform

/-! ### Filling in a record -/

theorem withMasked_start (s : List Char) (m : Option (List Char)) :
    (Record.start s).withMasked m = { Record.start s with masked := m } := by
  cases m <;> rfl

/-- The format that the letter of a hint has in the table is the one that it asks for. -/
theorem displayFormat_start (s : List Char) :
    (Record.start s).displayFormat = (Verdict.ofText s).toRecord.displayFormat := by
  show (((splitSuffix s).2.map fun l => [l.toChar]).bind _).map _
    = ((splitSuffix s).2.map _).map _
  cases (splitSuffix s).2 with
  | none => rfl
  | some l =>
    rw [Option.map_some, Option.bind_some, DisplayFormat.ofLetter?_toChar]
    rfl

/-- The outcome of the checks makes a record editable exactly if it is the one of an lvalue, for
that is the reason that no check gives. -/
theorem settle_code {r : Record} {refusal : Option Reason} (hr : r.editable = false)
    (hne : refusal ≠ some .lvalue) :
    r.settle (refusal.map fun q => q.code.toList) =
      { r with
        editable := refusal.getD .lvalue == .lvalue
        reason := (refusal.getD .lvalue).code.toList } := by
  cases refusal with
  | none => rfl
  | some q =>
    have hq : (q == Reason.lvalue) = false := beq_false_of_ne fun h => hne (congrArg some h)
    rw [Option.map_some, Record.settle, Option.getD_some, hq, ← hr]

/-- The code of a reason has a sentence, so that its record is completed. -/
theorem explain_of_code {r : Record} {q : Reason} (h : r.reason = q.code.toList) :
    r.explain = .ok { r with detail := q.detail.toList } := by
  rw [Record.explain, h, Reason.explanation?_code]

theorem ofText_eq (s : List Char) : Record.ofText s = .ok (Verdict.ofText s).toRecord := by
  have hne := Verdict.examine_snd_ne_lvalue (stripSuffix s)
  have hfill : Record.ofText s
      = (((Record.start s).withMasked (Verdict.examine (stripSuffix s)).1).settle
          ((Verdict.examine (stripSuffix s)).2.map fun q => q.code.toList)).explain := rfl
  rw [hfill, withMasked_start, settle_code rfl hne, explain_of_code rfl, displayFormat_start]
  rfl

theorem ofNonText_eq : Record.ofNonText = .ok Verdict.ofNonText.toRecord := by
  rw [Record.ofNonText, explain_of_code (q := .notText) rfl]
  rfl

/-- Every value is judged without failure, and its record shows the verdict on it. -/
theorem ofValue_eq (v : Value) : Record.ofValue v = .ok (classify v).toRecord := by
  cases v with
  | scalar a =>
    cases a with
    | text s => exact ofText_eq s
    | null | bool _ | int _ => exact ofNonText_eq
  | real _ | list _ | object _ => exact ofNonText_eq

/-! ### Records -/

/-- What the fields of a record have to do with each other. -/
structure Record.Consistent (r : Record) : Prop where
  editable_iff : r.editable = true ↔ r.reason = "lvalue".toList
  /-- The reason is in the table, and the detail is what the table says of it. -/
  lookup_reason : reasonTable.lookup (String.ofList r.reason) = some (String.ofList r.detail)
  /-- There is no letter and no format, or the format is the one that the letter asks for. -/
  format : (r.letter = none ∧ r.displayFormat = none) ∨
    ∃ (l : List Char) (f : DisplayFormat), r.letter = some l ∧
      r.displayFormat = some f.name.toList ∧ Value.displayFormat? (.text l) = .ok (some f) ∧
      (l, f) ∈ formatTable

/-- What the fields of a record have to do with the text that was judged. -/
structure Record.Describes (r : Record) (e : List Char) : Prop where
  expression_eq : r.expression = e
  base_eq : Value.stripSuffix (.text e) = .ok r.base
  empty_iff : r.reason = "empty".toList ↔ r.base = []
  masked_isSome_iff :
    r.masked.isSome = true ↔ r.reason ∈ maskedReasons.map fun q => q.code.toList
  /-- The masked view is the one of the base, and its operators decided. -/
  masked_eq : ∀ m, r.masked = some m →
    m = Subscript.mask r.base ∧ r.reason = ((operatorRefusal? m).getD .lvalue).code.toList
  /-- Where there is a base and no masked view, the form of the base decided. -/
  form_eq : r.masked = none → r.base ≠ [] →
    ∃ q, formRefusal? r.base = some q ∧ r.reason = q.code.toList

theorem reason_toRecord (v : Verdict) : v.toRecord.reason = v.reason.code.toList := rfl

theorem consistent_toRecord (v : Verdict) : v.toRecord.Consistent where
  editable_iff := Verdict.editable_iff.trans code_injective.eq_iff.symm
  lookup_reason := by
    rw [reason_toRecord, String.ofList_toList, Reason.lookup_code]
    exact congrArg some String.ofList_toList.symm
  format := by
    obtain ⟨expression, base, letter, masked, reason⟩ := v
    cases letter with
    | none => exact .inl ⟨rfl, rfl⟩
    | some l =>
      refine .inr ⟨[l.toChar], l.displayFormat, rfl, rfl, ?_, ?_⟩
      · show Except.ok (DisplayFormat.ofLetter? [l.toChar]) = _
        rw [DisplayFormat.ofLetter?_toChar]
      · cases l <;> decide

/-- The record of a verdict describes the text when its base is what is left of the text and the
judgment of the base ended in one of the three ways. -/
theorem describes_of_judgment {e base : List Char} {letter : Option FormatLetter}
    {masked : Option (List Char)} {reason : Reason} (hbase : base = stripSuffix e)
    (hjudge : Judgment base (masked, reason)) :
    (Verdict.toRecord ⟨e, base, letter, masked, reason⟩).Describes e := by
  have hempty : ∀ q : Reason, q.code.toList = Reason.empty.code.toList ↔ q = .empty :=
    fun _ => code_injective.eq_iff
  have hmem : ∀ q : Reason,
      q.code.toList ∈ maskedReasons.map (fun q => q.code.toList) ↔ q ∈ maskedReasons :=
    fun _ => List.mem_map_of_injective code_injective
  have hstrip : Value.stripSuffix (.text e) = .ok base := congrArg Except.ok hbase.symm
  cases hjudge with
  | empty h =>
    refine ⟨rfl, hstrip, iff_of_true (by rw [reason_toRecord]; rfl) h, ?_, ?_,
      fun _ hne => absurd h hne⟩
    · rw [reason_toRecord]
      exact iff_of_false Bool.false_ne_true ((hmem .empty).not.mpr (by decide))
    · rintro m ⟨⟩
  | form h _ hr =>
    obtain ⟨hmasked, hne⟩ := notMem_of_mem_formReasons (mem_formReasons_of_formRefusal? hr)
    refine ⟨rfl, hstrip, iff_of_false ((hempty reason).not.mpr hne) h, ?_, ?_,
      fun _ _ => ⟨reason, hr, rfl⟩⟩
    · exact iff_of_false Bool.false_ne_true ((hmem reason).not.mpr hmasked)
    · rintro m ⟨⟩
  | operators h hform =>
    have hmasked := getD_operatorRefusal?_mem (Subscript.mask base)
    have hne := ne_of_mem_of_not_mem hmasked (show Reason.empty ∉ maskedReasons by decide)
    refine ⟨rfl, hstrip, iff_of_false ((hempty _).not.mpr hne) h,
      iff_of_true rfl ((hmem _).mpr hmasked), ?_, fun hnone => ?_⟩
    · rintro m ⟨⟩
      exact ⟨rfl, rfl⟩
    · cases hnone

theorem describes_toRecord (e : List Char) : (classify (.text e)).toRecord.Describes e :=
  describes_of_judgment rfl (judgment_judge (stripSuffix e))

/-- The record of every value is filled in without failure, agrees with itself, and is editable
exactly if the value is; and the record of a text agrees with that text. -/
theorem ofValue_consistent :
    (∀ v : Value, ∃ r, Record.ofValue v = .ok r ∧ r = (classify v).toRecord ∧
        r.editable = isEditable v ∧ r.Consistent) ∧
      ∀ e : List Char, ∃ r, Record.ofValue (.text e) = .ok r ∧ r.Describes e :=
  ⟨fun v => ⟨_, ofValue_eq v, rfl, rfl, consistent_toRecord (classify v)⟩,
    fun e => ⟨_, ofValue_eq (.text e), describes_toRecord e⟩⟩

/-- The record of an element that is shown in hexadecimal, with all its fields: the masked view is
the one of its base.  The record of a call has none, and the form of the base tells its reason. -/
theorem ofValue_consistent_element :
    (∃ r, Record.ofValue (.text "p->a[i - 1] ,X".toList) = .ok r ∧
        r = {
          expression := "p->a[i - 1] ,X".toList
          base := "p->a[i - 1]".toList
          letter := some ['x']
          displayFormat := some "hex".toList
          masked := some "p->a[0]".toList
          editable := true
          reason := "lvalue".toList
          detail := "Names a storage location that can be assigned.".toList } ∧
        "p->a[0]".toList = Subscript.mask r.base ∧
        r.reason = ((operatorRefusal? "p->a[0]".toList).getD .lvalue).code.toList) ∧
      ∃ r, Record.ofValue (.text "f(x)".toList) = .ok r ∧ r.masked = none ∧ r.base ≠ [] ∧
        ∃ q, formRefusal? r.base = some q ∧ r.reason = q.code.toList := by
  obtain ⟨r, hr, hdescribes⟩ := ofValue_consistent.2 "p->a[i - 1] ,X".toList
  obtain ⟨call, hcall, hrefused⟩ := ofValue_consistent.2 "f(x)".toList
  refine ⟨⟨r, hr, ?_⟩, call, hcall, ?_⟩
  · obtain rfl := Except.ok.inj ((ofValue_eq _).symm.trans hr)
    have hmasked := hdescribes.masked_eq "p->a[0]".toList (by decide +kernel)
    exact ⟨by decide +kernel, hmasked⟩
  · obtain rfl := Except.ok.inj ((ofValue_eq _).symm.trans hcall)
    refine ⟨by decide +kernel, by decide +kernel, hrefused.form_eq ?_ ?_⟩ <;> decide +kernel

end WatchExpr
