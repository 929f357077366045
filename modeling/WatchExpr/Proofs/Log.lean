import WatchExpr.Log
import WatchExpr.Proofs.Cell
import WatchExpr.Proofs.Consistency
import WatchExpr.Proofs.Quoted

/-!
# What the log of refusals tells

A record is written when the checks have found a reason against an input.  No check refuses an
expression for being an lvalue, so an input is recorded exactly when it is not editable
(`refusalLog_eq`).

A message tells both of its parts.  The code of a reason has no parenthesis in it, so it ends where
the first one stands; and what comes after it is the input as it is quoted, which is read back
whatever the input is (`readRefusal_refusalMessage`).  Every character of a message is printable, so
that no input can end the line of its record and begin another one.
-/

namespace WatchExpr

variable {a : Scalar} {c : Char} {r : Reason} {s : List Char}

/-! ### Records and refusals -/

/-- An input that is not editable leaves the one record that names its reason. -/
theorem refusalLog_eq (a : Scalar) :
    refusalLog a = if isEditable (.scalar a) then []
      else [refusalRecord (classify (.scalar a)).reason a] := by
  cases a with
  | null | bool _ | int _ => rfl
  | text s =>
    show refusalLog _ = if (Verdict.judge (stripSuffix s)).2 == .lvalue then []
      else [refusalRecord (Verdict.judge (stripSuffix s)).2 _]
    have hne := Verdict.examine_snd_ne_lvalue (stripSuffix s)
    rw [refusalLog, Verdict.judge]
    cases hreason : (Verdict.examine (stripSuffix s)).2 with
    | none => rfl
    | some r =>
      have hr : (r == Reason.lvalue) = false :=
        beq_false_of_ne fun h => hne (hreason.trans (congrArg some h))
      rw [Option.getD_some, hr]
      rfl

/-! ### Messages that are read back -/

/-- The code of the reason and the input that a message names. -/
def readRefusal (message : List Char) : List Char × Scalar :=
  let rest := message.drop "Not editable (".toList.length
  let code := rest.takeWhile (· != ')')
  (code, Scalar.read (rest.drop (code.length + "): ".toList.length)))

theorem readRefusal_refusalMessage (r : Reason) (a : Scalar) :
    readRefusal (refusalMessage r a) = (r.code.toList, a) := by
  have hrest : (refusalMessage r a).drop "Not editable (".toList.length
      = r.code.toList ++ ("): ".toList ++ a.quoted) := by
    unfold refusalMessage
    rw [List.append_assoc, List.append_assoc, List.drop_left]
  have hclose : ∀ c ∈ r.code.toList, (c != ')') = true := by
    have hcode : ')' ∉ r.code.toList := by
      cases r <;> exact Markdown.notMem_toList (by decide)
    exact fun c hc => bne_iff_ne.mpr (ne_of_mem_of_not_mem hc hcode)
  have hcode : (r.code.toList ++ ("): ".toList ++ a.quoted)).takeWhile (· != ')')
      = r.code.toList := by
    rw [List.takeWhile_append_of_pos hclose]
    exact List.append_nil _
  rw [readRefusal, hrest, hcode]
  simp only [← List.append_assoc, ← List.length_append, List.drop_left, Scalar.read_quoted]

/-- No two refusals have the same message. -/
theorem refusalMessage_inj {q : Reason} {b : Scalar} :
    refusalMessage r a = refusalMessage q b ↔ r = q ∧ a = b := by
  constructor
  · intro h
    have hread := congrArg readRefusal h
    rw [readRefusal_refusalMessage, readRefusal_refusalMessage, Prod.mk.injEq] at hread
    exact ⟨code_injective hread.1, hread.2⟩
  · rintro ⟨rfl, rfl⟩
    rfl

/-! ### Characters of messages -/

/-- A string of characters that can be shown.  It is written out as the list of these, for the same
reason as for `Markdown.notMem_toList`. -/
theorem isPrintable_of_mem_toList {l : List Char}
    (h : (l.all fun c => decide (32 ≤ c.toNat ∧ c.toNat ≤ 126)) = true) :
    ∀ c ∈ (String.ofList l).toList, isPrintable c = true := by
  rw [String.toList_ofList]
  exact isPrintable_of_all_ascii h

theorem isPrintable_of_mem_refusalMessage (h : c ∈ refusalMessage r a) : isPrintable c = true := by
  unfold refusalMessage at h
  rw [List.mem_append, List.mem_append, List.mem_append] at h
  rcases h with ((h | h) | h) | h
  · exact isPrintable_of_mem_toList (by decide) c h
  · cases r <;> exact isPrintable_of_mem_toList (by decide) c h
  · exact isPrintable_of_mem_toList (by decide) c h
  · exact Scalar.isPrintable_of_mem_quoted h

/-- A line break is a control character, or the separator of lines or of paragraphs. -/
theorem isPrintable_of_isLineBreak (h : isLineBreak c = true) : isPrintable c = false := by
  simp only [isLineBreak, inRanges_iff, lineBreakRanges, List.mem_cons, List.not_mem_nil, or_false,
    exists_eq_or_imp, exists_eq_left] at h
  have hclass : inRanges controlRanges c = true ∨ inRanges separatorRanges c = true := by
    simp only [inRanges_iff, controlRanges, separatorRanges, List.mem_cons, List.not_mem_nil,
      or_false, exists_eq_or_imp, exists_eq_left]
    omega
  rcases hclass with hcontrol | hseparator
  · exact isPrintable_of_control hcontrol
  · exact isPrintable_of_separator hseparator

/-- A printable character is no control character and breaks no line. -/
theorem not_control_of_isPrintable (h : isPrintable c = true) :
    inRanges controlRanges c = false ∧ isLineBreak c = false := by
  rw [← Bool.not_eq_true, ← Bool.not_eq_true]
  refine ⟨fun hcontrol => ?_, fun hbreak => ?_⟩
  · rw [isPrintable_of_control hcontrol] at h
    cases h
  · rw [isPrintable_of_isLineBreak hbreak] at h
    cases h

/-! ### The log -/

/-- An editable input leaves no record.  Any other input leaves one, from which the reason and the
input are read back, and no character of which can end the line that it stands on; so there are no
two such inputs with the same message. -/
theorem refusalLog_faithful :
    (∀ a, isEditable (.scalar a) = true → refusalLog a = []) ∧
      (∀ a, isEditable (.scalar a) = false → ∃ message,
        refusalLog a = [{ channel := refusalChannel, level := "DEBUG", message := message }] ∧
        message = refusalMessage (classify (.scalar a)).reason a ∧
        readRefusal message = ((classify (.scalar a)).reason.code.toList, a) ∧
        ∀ c ∈ message, isPrintable c = true ∧ inRanges controlRanges c = false ∧
          isLineBreak c = false) ∧
      ∀ a b, isEditable (.scalar a) = false → isEditable (.scalar b) = false →
        (refusalLog a).map LogRecord.message = (refusalLog b).map LogRecord.message → a = b := by
  have hrefused : ∀ a, isEditable (.scalar a) = false →
      refusalLog a = [refusalRecord (classify (.scalar a)).reason a] := by
    intro a ha
    rw [refusalLog_eq, ha, if_neg Bool.false_ne_true]
  refine ⟨fun a ha => ?_, fun a ha => ?_, fun a b ha hb hmessage => ?_⟩
  · rw [refusalLog_eq, if_pos ha]
  · refine ⟨_, hrefused a ha, rfl, readRefusal_refusalMessage _ a, fun c hc => ?_⟩
    have hprint := isPrintable_of_mem_refusalMessage hc
    exact ⟨hprint, not_control_of_isPrintable hprint⟩
  · rw [hrefused a ha, hrefused b hb] at hmessage
    exact (refusalMessage_inj.mp (List.head_eq_of_cons_eq hmessage)).2

/-- A text with a separator of lines and both quotation marks is read back from its record.  A name
leaves none; and the records of a number and of its digits as a text are two. -/
theorem refusalLog_faithful_both_marks :
    isEditable (.text ['"', '\u2028', '\'', 'a']) = false ∧
      (∃ message,
        refusalLog (.text ['"', '\u2028', '\'', 'a'])
          = [{ channel := refusalChannel, level := "DEBUG", message := message }] ∧
        message = "Not editable (string_literal): '\"\\u2028\\'a'".toList ∧
        readRefusal message = ("string_literal".toList, .text ['"', '\u2028', '\'', 'a'])) ∧
      isEditable (.text ['a']) = true ∧ refusalLog (.text ['a']) = [] ∧
      isEditable (.text ['5']) = false ∧ isEditable (.scalar (.int 5)) = false ∧
      (refusalLog (.text ['5'])).map LogRecord.message
        ≠ (refusalLog (.int 5)).map LogRecord.message := by
  obtain ⟨hedit, hrefuse, hinj⟩ := refusalLog_faithful
  have hmarks : isEditable (.text ['"', '\u2028', '\'', 'a']) = false := by decide
  have hname : isEditable (.text ['a']) = true := by decide
  have hdigit : isEditable (.text ['5']) = false := by decide
  have hnumber : isEditable (.scalar (.int 5)) = false := rfl
  obtain ⟨message, hlog, hmessage, hread, -⟩ := hrefuse _ hmarks
  refine ⟨hmarks, ⟨message, hlog, hmessage.trans ?_, hread.trans ?_⟩, hname, hedit _ hname,
    hdigit, hnumber, fun h => ?_⟩
  · decide +kernel
  · decide
  · exact absurd (hinj _ _ hdigit hnumber h) (by decide)

end WatchExpr
