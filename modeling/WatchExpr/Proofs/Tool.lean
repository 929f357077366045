import Mathlib.Tactic.SplitIfs
import WatchExpr.Proofs.Consistency
import WatchExpr.Proofs.Log
import WatchExpr.Server

/-!
# What the tools answer

A tool is called by its name, and takes its argument from those given.  So a call has an answer
exactly if there is a tool of the name and its argument is given, and the answer is the report of
that tool on that argument (`Tool.call_eq_ok_iff`).  The two things that can be missing are the two
failures of a call (`Tool.call_eq_error_iff`).

The short answer shows its input as it was sent, without quotation marks, and still no two inputs
have the same one (`Report.check_injective`).  The sentence at its end stands after the last
backtick, and it tells the reason, which tells whether the input was a text.

The list of the display hints has a row for each letter (`Report.mem_drop_formatLines_iff`), and
what a row shows is taken off after any expression and asks for the format beside it
(`Report.exists_of_mem_formatTable`).

The notice with which the server starts is one line, on which the tools are named
(`Server.announcement_eq`).
-/

namespace WatchExpr

variable {c : Char} {s : List Char}

/-! ### Calls -/

namespace Tool

variable {tool : Tool} {name out : List Char} {given : List (List Char × List Char)} {e : Failure}

theorem ofName?_eq_some_iff : ofName? name = some tool ↔ tool.name.toList = name := by
  constructor
  · intro h
    have hname := List.find?_some h
    exact beq_iff_eq.mp hname
  · rintro rfl
    exact ofName?_name tool

theorem ofName?_eq_none_iff : ofName? name = none ↔ ∀ tool : Tool, tool.name.toList ≠ name := by
  rw [ofName?, List.find?_eq_none]
  exact ⟨fun h tool => by simpa using h tool (mem_all tool), fun h tool _ => by simpa using h tool⟩

/-- A tool takes what is given for its parameter, and nothing if it has none. -/
theorem argument_eq_ok_iff : tool.argument given = .ok s ↔
    tool.parameter? = none ∧ s = [] ∨
      ∃ p ∈ tool.required, given.lookup p.toList = some s := by
  rw [argument, required]
  cases tool.parameter? with
  | none => simp [eq_comm]
  | some p => cases h : given.lookup p.toList <;> simp [h]

/-- A tool misses an argument that it requires and that is not given. -/
theorem argument_eq_error_iff : tool.argument given = .error e ↔
    ∃ p ∈ tool.required, given.lookup p.toList = none ∧ e = .missingArgument tool.name p := by
  rw [argument, required]
  cases tool.parameter? with
  | none => simp
  | some p => cases h : given.lookup p.toList <;> simp [h, eq_comm]

theorem call_name (tool : Tool) (given : List (List Char × List Char)) :
    call tool.name.toList given = (tool.argument given).map tool.answer := by
  rw [call, ofName?_name]

/-- A call is answered by the tool of its name, from the argument that the tool takes. -/
theorem call_eq_ok_iff : call name given = .ok out ↔
    ∃ tool : Tool, tool.name.toList = name ∧
      ∃ s, tool.argument given = .ok s ∧ tool.answer s = out := by
  constructor
  · intro h
    cases hname : ofName? name with
    | none =>
      rw [call, hname] at h
      cases h
    | some tool =>
      obtain rfl := ofName?_eq_some_iff.mp hname
      rw [call_name] at h
      cases hs : tool.argument given with
      | error e =>
        rw [hs] at h
        cases h
      | ok s =>
        rw [hs] at h
        exact ⟨tool, rfl, s, hs, Except.ok.inj h⟩
  · rintro ⟨tool, rfl, s, hs, rfl⟩
    rw [call_name, hs]
    rfl

/-- A call fails if there is no tool of its name, or if the tool misses its argument. -/
theorem call_eq_error_iff : call name given = .error e ↔
    (∀ tool : Tool, tool.name.toList ≠ name) ∧ e = .unknownTool name ∨
      ∃ tool : Tool, tool.name.toList = name ∧ ∃ p ∈ tool.required,
        given.lookup p.toList = none ∧ e = .missingArgument tool.name p := by
  cases hname : ofName? name with
  | none =>
    have hother := ofName?_eq_none_iff.mp hname
    rw [call, hname]
    constructor
    · intro h
      exact .inl ⟨hother, (Except.error.inj h).symm⟩
    · rintro (⟨-, rfl⟩ | ⟨tool, htool, -⟩)
      · rfl
      · exact absurd htool (hother tool)
  | some tool =>
    obtain rfl := ofName?_eq_some_iff.mp hname
    have hmissing : call tool.name.toList given = .error e ↔ tool.argument given = .error e := by
      rw [call_name]
      cases tool.argument given with
      | error _ => exact Iff.rfl
      | ok _ => exact iff_of_false nofun nofun
    rw [hmissing, argument_eq_error_iff]
    constructor
    · intro h
      exact .inr ⟨tool, rfl, h⟩
    · rintro (⟨hother, -⟩ | ⟨tool', htool, h⟩)
      · exact absurd rfl (hother tool)
      · obtain rfl := Option.some.inj (hname.symm.trans (ofName?_eq_some_iff.mpr htool))
        exact h

end Tool

/-! ### The short answer -/

/-- No two reasons are explained by the same sentence. -/
theorem detail_injective : Function.Injective fun r : Reason => r.detail.toList :=
  injective_of_nodup_reasons (by decide +kernel)

theorem backtick_notMem_detail (r : Reason) : '\x60' ∉ r.detail.toList := by
  cases r <;> exact Markdown.notMem_toList (by decide)

/-- A text is never refused as what is no text. -/
theorem reason_ofText_ne_notText (s : List Char) : (Verdict.ofText s).reason ≠ .notText := by
  show (Verdict.judge (stripSuffix s)).2 ≠ .notText
  generalize hjudge : Verdict.judge (stripSuffix s) = j
  have hend := judgment_judge (stripSuffix s)
  rw [hjudge] at hend
  cases hend with
  | empty h => decide
  | form h r hr => exact ne_of_mem_of_not_mem (mem_formReasons_of_formRefusal? hr) (by decide)
  | operators h hform => exact ne_of_mem_of_not_mem (getD_operatorRefusal?_mem _) (by decide)

/-- What stands before and after the last place of a character is told from the text. -/
theorem append_cons_inj_of_notMem_right {s₁ s₂ t₁ t₂ : List Char} (h₁ : c ∉ t₁) (h₂ : c ∉ t₂)
    (h : s₁ ++ c :: t₁ = s₂ ++ c :: t₂) : s₁ = s₂ ∧ t₁ = t₂ := by
  rcases List.append_eq_append_iff.mp h with ⟨x, rfl, hx⟩ | ⟨x, rfl, hx⟩
  · rcases List.cons_eq_append_iff.mp hx with ⟨rfl, htail⟩ | ⟨x, rfl, rfl⟩
    · exact ⟨(List.append_nil _).symm, (List.cons_injective htail).symm⟩
    · exact absurd (List.mem_append_right x List.mem_cons_self) h₁
  · rcases List.cons_eq_append_iff.mp hx with ⟨rfl, htail⟩ | ⟨x, rfl, rfl⟩
    · exact ⟨List.append_nil _, List.cons_injective htail⟩
    · exact absurd (List.mem_append_right x List.mem_cons_self) h₂

/-- A scalar is refused as what is no text exactly if it is none. -/
theorem reason_eq_notText_iff (a : Scalar) :
    (classify (.scalar a)).reason = .notText ↔ a.kind ≠ .text := by
  cases a with
  | null | bool _ | int _ => exact iff_of_true rfl nofun
  | text s => exact iff_of_false (reason_ofText_ne_notText s) (not_not.mpr rfl)

/-- How a scalar is written without quotation marks tells it from those of its sort, which are the
texts, or all the others. -/
theorem Scalar.plain_inj {a b : Scalar} (hsort : a.kind ≠ .text ↔ b.kind ≠ .text)
    (h : a.plain = b.plain) : a = b := by
  have hquoted : ∀ a : Scalar, a.kind ≠ .text → a.quoted = a.plain := by
    intro a ha
    cases a with
    | null | bool _ | int _ => rfl
    | text s => exact absurd rfl ha
  have htext : ∀ a : Scalar, a.kind = .text → a = .text a.plain := by
    intro a ha
    cases a with
    | null | bool _ | int _ => cases ha
    | text s => rfl
  by_cases ha : a.kind = .text
  · have hb : b.kind = .text := not_not.mp (hsort.not.mp (not_not.mpr ha))
    rw [htext a ha, htext b hb, h]
  · rw [← Scalar.read_quoted a, ← Scalar.read_quoted b, hquoted a ha, hquoted b (hsort.mp ha), h]

namespace Report

/-- No two scalars have the same short answer. -/
theorem check_injective : Function.Injective check := by
  intro a b h
  -- The last backtick is the one before the sentence, whatever the input is.
  have hsplit : ∀ a : Scalar, check a
      = (Markdown.strong (classify (.scalar a)).status.toList ++ " — ".toList ++ '\x60' :: a.plain)
        ++ '\x60' :: (": ".toList ++ (classify (.scalar a)).reason.detail.toList) := by
    intro a
    simp [check, Markdown.code, Verdict.detail]
  have hlast : ∀ r : Reason, '\x60' ∉ ": ".toList ++ r.detail.toList := by
    intro r
    rw [List.mem_append, not_or]
    exact ⟨by decide, backtick_notMem_detail r⟩
  rw [hsplit, hsplit] at h
  obtain ⟨hshown, htail⟩ := append_cons_inj_of_notMem_right (hlast _) (hlast _) h
  have hreason : (classify (.scalar a)).reason = (classify (.scalar b)).reason :=
    detail_injective (List.append_cancel_left htail)
  have hsort : a.kind ≠ .text ↔ b.kind ≠ .text := by
    rw [← reason_eq_notText_iff, ← reason_eq_notText_iff, hreason]
  rw [Verdict.status, Verdict.status, Verdict.editable, Verdict.editable, hreason] at hshown
  exact Scalar.plain_inj hsort (List.cons_injective (List.append_cancel_left hshown))

/-! ### The list of the display hints -/

/-- The letters in the table are those of the hints, each with the format that it asks for. -/
theorem mem_formatTable_iff {letter : List Char} {f : DisplayFormat} :
    (letter, f) ∈ formatTable ↔ ∃ l : FormatLetter, letter = [l.toChar] ∧ l.displayFormat = f := by
  constructor
  · intro h
    have hall : ∀ entry ∈ formatTable, ∃ l ∈ FormatLetter.all,
        entry.1 = [l.toChar] ∧ l.displayFormat = entry.2 := by decide
    obtain ⟨l, -, hl⟩ := hall _ h
    exact ⟨l, hl⟩
  · rintro ⟨l, rfl, rfl⟩
    cases l <;> decide

/-- A row of the list shows a comma and a letter that are taken off after any expression, and the
format that is looked up for that letter. -/
theorem exists_of_mem_formatTable {letter : List Char} {f : DisplayFormat}
    (h : (letter, f) ∈ formatTable) (s : List Char) :
    ∃ l, splitSuffix (s ++ ',' :: letter) = (s, some l) ∧
      DisplayFormat.ofLetter? [l.toChar] = some f := by
  obtain ⟨l, rfl, rfl⟩ := mem_formatTable_iff.mp h
  exact ⟨l, splitSuffix_append s (FormatLetter.ofChar?_toChar l), DisplayFormat.ofLetter?_toChar l⟩

/-- The lines below the titles are a row for each letter of a hint. -/
theorem mem_drop_formatLines_iff {line : List Char} : line ∈ formatLines.drop 2 ↔
    ∃ l : FormatLetter, line = Markdown.row (formatCells [l.toChar] l.displayFormat) := by
  have hrows : formatLines.drop 2
      = (formatTable.map fun entry => formatCells entry.1 entry.2).map Markdown.row := rfl
  rw [hrows, List.map_map, List.mem_map]
  constructor
  · rintro ⟨⟨letter, f⟩, hmem, rfl⟩
    obtain ⟨l, rfl, rfl⟩ := mem_formatTable_iff.mp hmem
    exact ⟨l, rfl⟩
  · rintro ⟨l, rfl⟩
    exact ⟨([l.toChar], l.displayFormat), mem_formatTable_iff.mpr ⟨l, rfl, rfl⟩, rfl⟩

theorem lines_formats : lines formats = formatLines := lines_ofLines (by decide +kernel)

end Report

/-! ### The notice of the server -/

namespace Server

theorem mem_intercalate {separator : List Char} {items : List (List Char)}
    (h : c ∈ separator.intercalate items) : c ∈ separator ∨ ∃ s ∈ items, c ∈ s := by
  induction items with
  | nil => cases h
  | cons s items ih =>
    cases items with
    | nil =>
      rw [List.intercalate_singleton] at h
      exact .inr ⟨s, List.mem_cons_self, h⟩
    | cons t items =>
      rw [List.intercalate_cons_cons, List.mem_append, List.mem_append] at h
      rcases h with (h | h) | h
      · exact .inr ⟨s, List.mem_cons_self, h⟩
      · exact .inl h
      · exact (ih h).imp_right fun ⟨t, ht, hc⟩ => ⟨t, List.mem_cons_of_mem _ ht, hc⟩

/-- Each text of a list stands in what they make together, and whole. -/
theorem infix_intercalate {separator : List Char} {items : List (List Char)} (h : s ∈ items) :
    s <:+: separator.intercalate items := by
  induction items with
  | nil => cases h
  | cons t items ih =>
    cases items with
    | nil =>
      obtain rfl := List.mem_singleton.mp h
      simp
    | cons u items =>
      rw [List.intercalate_cons_cons]
      rcases List.mem_cons.mp h with rfl | h
      · rw [List.append_assoc]
        exact (List.prefix_append s _).isInfix
      · exact (ih h).trans (List.suffix_append _ _).isInfix

theorem isPrintable_of_mem_quotedList {items : List (List Char)} (h : c ∈ quotedList items) :
    isPrintable c = true := by
  rw [quotedList, List.mem_cons, List.mem_append, List.mem_singleton] at h
  rcases h with rfl | h | rfl
  · exact isPrintable_of_ascii (by decide)
  · rcases mem_intercalate h with hcomma | ⟨t, ht, hc⟩
    · exact isPrintable_of_all_ascii (by decide) c hcomma
    · obtain ⟨u, -, rfl⟩ := List.mem_map.mp ht
      exact isPrintable_of_mem_quoted hc
  · exact isPrintable_of_ascii (by decide)

/-- The notice is one line, on which each of the tools is named between quotation marks. -/
theorem announcement_eq (tools : List Tool) :
    ∃ line, announcement tools = line ++ ['\n'] ∧
      (∀ c ∈ line, isPrintable c = true ∧ isLineBreak c = false) ∧
      ∀ tool ∈ tools, quoted tool.name.toList <:+: line := by
  refine ⟨_, rfl, fun c hc => ?_, fun tool htool => ?_⟩
  · have hprint : isPrintable c = true := by
      simp only [List.mem_append] at hc
      rcases hc with ((((hc | hc) | hc) | hc) | hc) | hc
      · exact isPrintable_of_mem_toList (by decide) c hc
      · exact isPrintable_of_mem_toList (by decide) c hc
      · exact isPrintable_of_mem_toList (by decide) c hc
      · exact isPrintable_of_mem_natText hc
      · exact isPrintable_of_mem_toList (by decide) c hc
      · exact isPrintable_of_mem_quotedList hc
    exact ⟨hprint, (not_control_of_isPrintable hprint).2⟩
  · have hitem : quoted tool.name.toList ∈ (tools.map fun t => t.name.toList).map quoted :=
      List.mem_map_of_mem (List.mem_map_of_mem htool)
    have hlist : quoted tool.name.toList <:+: quotedList (tools.map fun t => t.name.toList) :=
      (infix_intercalate hitem).trans ⟨['['], [']'], rfl⟩
    exact hlist.trans (List.suffix_append _ _).isInfix

end Server

end WatchExpr
