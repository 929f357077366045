import WatchExpr.Text.CodeRange

/-!
# Blanks

A blank is a character of Unicode's white space, or one of the four separators U+001C to U+001F.
The zero-width space U+200B and the byte order mark U+FEFF are no blanks.  `trim` removes the
blanks at both ends of a text and keeps those inside.
-/

namespace WatchExpr

/-- The code points of the blanks, in ascending order. -/
def blankRanges : List CodeRange :=
  [⟨0x09, 0x0D⟩, ⟨0x1C, 0x20⟩, ⟨0x85, 0x85⟩, ⟨0xA0, 0xA0⟩, ⟨0x1680, 0x1680⟩,
    ⟨0x2000, 0x200A⟩, ⟨0x2028, 0x2029⟩, ⟨0x202F, 0x202F⟩, ⟨0x205F, 0x205F⟩, ⟨0x3000, 0x3000⟩]

/-- Whether `c` is a blank. -/
def isBlank (c : Char) : Bool := inRanges blankRanges c

/-- The text from its first character that is not a blank on. -/
def trimStart (s : List Char) : List Char := s.dropWhile isBlank

/-- The text up to its last character that is not a blank. -/
def trimEnd (s : List Char) : List Char := (s.reverse.dropWhile isBlank).reverse

/-- The text without the blanks at its two ends. -/
def trim (s : List Char) : List Char := trimEnd (trimStart s)

/-- Whether every character of the text is a blank; the empty text is such a text. -/
def isBlankText (s : List Char) : Bool := s.all isBlank

/-- Nothing is left of a text of blanks once its leading blanks are gone. -/
theorem trimStart_eq_nil_of_isBlankText {s : List Char} (h : isBlankText s = true) :
    trimStart s = [] := by
  induction s with
  | nil => rfl
  | cons c s ih =>
    simp only [isBlankText, List.all_cons, Bool.and_eq_true] at h
    simpa [trimStart, h.1] using ih h.2

/-- A text of blanks alone trims to nothing. -/
theorem trim_eq_nil_of_isBlankText {s : List Char} (h : isBlankText s = true) : trim s = [] := by
  rw [trim, trimStart_eq_nil_of_isBlankText h]
  rfl

end WatchExpr
