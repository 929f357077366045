import WatchExpr.Text.Printable

/-!
# Quoted text

A text is quoted so that it stands on one line, shows every character that can be shown, and can be
read back.  The quotation mark is `'`, or `"` for a text that holds `'` and not `"`.  The mark in
use and the backslash are written after a backslash; line feed, carriage return and tab have names;
any other character that is not printable is written by its code point, in the shortest of three
widths.
-/

namespace WatchExpr

/-- The last `width` hexadecimal digits of a number, in lower case and with leading zeros. -/
def hexDigits : Nat → Nat → List Char
  | 0, _ => []
  | width + 1, n => hexDigits width (n / 16) ++ [Nat.digitChar (n % 16)]

@[simp] theorem hexDigits_length (width n : Nat) : (hexDigits width n).length = width := by
  induction width generalizing n with
  | zero => rfl
  | succ width ih => simp [hexDigits, ih]

/-- A character by its code point. -/
def escapeCode (c : Char) : List Char :=
  let n := c.toNat
  if n < 0x100 then '\\' :: 'x' :: hexDigits 2 n
  else if n < 0x10000 then '\\' :: 'u' :: hexDigits 4 n
  else '\\' :: 'U' :: hexDigits 8 n

/-- How the character `c` is written between two marks `mark`. -/
def escapeChar (mark c : Char) : List Char :=
  if c = mark ∨ c = '\\' then ['\\', c]
  else if c = '\n' then ['\\', 'n']
  else if c = '\r' then ['\\', 'r']
  else if c = '\t' then ['\\', 't']
  else if isPrintable c then [c]
  else escapeCode c

/-- The mark that a text is quoted with. -/
def quoteMark (s : List Char) : Char := if '\'' ∈ s ∧ '"' ∉ s then '"' else '\''

/-- What stands between the marks. -/
def escape (mark : Char) (s : List Char) : List Char := s.flatMap (escapeChar mark)

/-- The quoted text. -/
def quoted (s : List Char) : List Char :=
  quoteMark s :: (escape (quoteMark s) s ++ [quoteMark s])

@[simp] theorem escape_nil (mark : Char) : escape mark [] = [] := rfl

@[simp] theorem escape_cons (mark c : Char) (s : List Char) :
    escape mark (c :: s) = escapeChar mark c ++ escape mark s := rfl

/-- The mark is one of two characters. -/
theorem quoteMark_eq (s : List Char) : quoteMark s = '"' ∨ quoteMark s = '\'' := by
  unfold quoteMark
  split
  · exact .inl rfl
  · exact .inr rfl

end WatchExpr
