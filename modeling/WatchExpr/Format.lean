import WatchExpr.Text.Blank

/-!
# Display formats

A watch expression can end in a display hint: a comma and one of five letters, in either case,
as the last two characters of what was typed.  The hint says how the value is shown and never what
the expression refers to.  `splitSuffix` takes it off; nothing is trimmed before, so a hint that
has a blank after it is part of the expression.

The hint is looked for from the front of the text, at each place in turn, and a place counts only if
the hint that stands there goes up to the end (`findHint?`).  So the commas before the last one are
all passed over.

Which characters are letters of a hint is known in two places: `FormatLetter.ofChar?`, where a hint
is looked for, and `formatTable`, where the letter is a text again and the format is looked up.
-/

namespace WatchExpr

/-- The ways in which a value can be shown. -/
inductive DisplayFormat where
  | hex
  | binary
  | octal
  | decimal
  deriving DecidableEq, Repr

/-- The word that names the format. -/
def DisplayFormat.name : DisplayFormat → String
  | .hex => "hex"
  | .binary => "binary"
  | .octal => "octal"
  | .decimal => "decimal"

/-- The letters of the display hints. -/
inductive FormatLetter where
  | h
  | x
  | b
  | o
  | d
  deriving DecidableEq, Repr

namespace FormatLetter

/-- The letters in the order in which they are listed. -/
def all : List FormatLetter := [.h, .x, .b, .o, .d]

/-- The letter as it is written: in lower case. -/
def toChar : FormatLetter → Char
  | .h => 'h'
  | .x => 'x'
  | .b => 'b'
  | .o => 'o'
  | .d => 'd'

/-- The letter that a character stands for, in either case. -/
def ofChar? : Char → Option FormatLetter
  | 'h' | 'H' => some .h
  | 'x' | 'X' => some .x
  | 'b' | 'B' => some .b
  | 'o' | 'O' => some .o
  | 'd' | 'D' => some .d
  | _ => none

theorem ofChar?_toChar (l : FormatLetter) : ofChar? l.toChar = some l := by cases l <;> rfl

/-- The format that the letter asks for; `h` and `x` ask for the same one. -/
def displayFormat : FormatLetter → DisplayFormat
  | .h | .x => .hex
  | .b => .binary
  | .o => .octal
  | .d => .decimal

end FormatLetter

/-! ### The table of formats -/

/-- The letters of the display hints as texts, each with the format that it asks for. -/
def formatTable : List (List Char × DisplayFormat) :=
  [(['h'], .hex), (['x'], .hex), (['b'], .binary), (['o'], .octal), (['d'], .decimal)]

/-- The format that the table has for a letter, which can be given in either case.  The letter is
given as a text, and a text that is no letter of the table has no format. -/
def DisplayFormat.ofLetter? (letter : List Char) : Option DisplayFormat :=
  formatTable.lookup (letter.map Char.toLower)

theorem DisplayFormat.ofLetter?_toChar (l : FormatLetter) :
    ofLetter? [l.toChar] = some l.displayFormat := by
  cases l <;> rfl

/-! ### The suffix -/

/-- The letter of the text if it is a display hint and nothing else: a comma and one letter. -/
def hintLetter? : List Char → Option FormatLetter
  | [',', c] => FormatLetter.ofChar? c
  | _ => none

/-- The first place at which a display hint begins that goes up to the end of the text, and the
letter of the hint.  The first character of the text is at the place `start`. -/
def findHint? : Nat → List Char → Option (Nat × FormatLetter)
  | _, [] => none
  | start, c :: rest =>
    match hintLetter? (c :: rest) with
    | some l => some (start, l)
    | none => findHint? (start + 1) rest

/-- What was typed, in two parts: the expression, not trimmed, and the letter of the display hint
if there is one. -/
def splitSuffix (s : List Char) : List Char × Option FormatLetter :=
  match findHint? 0 s with
  | some (place, l) => (s.take place, some l)
  | none => (s, none)

/-- The expression without its display hint and without the blanks around it. -/
def stripSuffix (s : List Char) : List Char := trim (splitSuffix s).1

theorem hintLetter?_eq_some_iff {s : List Char} {l : FormatLetter} :
    hintLetter? s = some l ↔ ∃ c, s = [',', c] ∧ FormatLetter.ofChar? c = some l := by
  constructor
  · intro h
    unfold hintLetter? at h
    split at h
    · exact ⟨_, rfl, h⟩
    · cases h
  · rintro ⟨c, rfl, h⟩
    exact h

/-- No place is found before the hint at the end. -/
theorem findHint?_append {c : Char} {l : FormatLetter} (h : FormatLetter.ofChar? c = some l)
    (start : Nat) (s : List Char) :
    findHint? start (s ++ [',', c]) = some (start + s.length, l) := by
  induction s generalizing start with
  | nil =>
    have hhint : hintLetter? [',', c] = some l := h
    rw [List.nil_append, findHint?, hhint]
    rfl
  | cons d s ih =>
    -- With `d` before it the hint is not alone, so that the search goes on after `d`.
    have hlonger : hintLetter? (d :: (s ++ [',', c])) = none := by
      rw [Option.eq_none_iff_forall_ne_some]
      intro k hk
      obtain ⟨_, hshort, -⟩ := hintLetter?_eq_some_iff.mp hk
      have hlength := congrArg List.length hshort
      simp at hlength
    rw [List.cons_append, findHint?, hlonger]
    show findHint? (start + 1) (s ++ [',', c]) = _
    rw [ih, List.length_cons, Nat.add_assoc, Nat.add_comm 1]

/-- A comma and a letter at the end are taken off, whatever stands before them. -/
theorem splitSuffix_append {c : Char} {l : FormatLetter} (s : List Char)
    (h : FormatLetter.ofChar? c = some l) : splitSuffix (s ++ [',', c]) = (s, some l) := by
  rw [splitSuffix, findHint?_append h, Nat.zero_add]
  exact Prod.ext (List.take_left' rfl) rfl

end WatchExpr
