import Mathlib.Algebra.Order.Ring.Nat
import Mathlib.Tactic.SplitIfs
import WatchExpr.Proofs.Line
import WatchExpr.Value

/-!
# Quoted text that is read back

What is written for one character is read back first (`readChar_escapeChar`): the character after a
backslash names another one, or says how many digits of a code point follow, and each of the three
widths is enough for the code points that it is used for (`readChar_code`).  The mark is written
after a backslash where it is part of the text, so the first bare one ends it, and a text is read
back whatever stands in it (`unquote_quoted`).

The first character tells a quoted text from the other scalars, and these from each other, so that
every scalar is read back from its quoted form (`Scalar.read_quoted`).  And all that is written in
such a form is printable (`Scalar.isPrintable_of_mem_quoted`).
-/

namespace WatchExpr

variable {c d mark : Char} {s t : List Char} {n width : Nat}

/-! ### Hexadecimal digits -/

/-- The value of a hexadecimal digit in lower case. -/
def hexValue (c : Char) : Nat :=
  if c.isDigit then c.toNat - '0'.toNat else c.toNat - 'a'.toNat + 10

/-- The number that hexadecimal digits write. -/
def ofHexDigits (s : List Char) : Nat := s.foldl (fun n c => 16 * n + hexValue c) 0

theorem hexValue_digitChar (h : n < 16) : hexValue (Nat.digitChar n) = n := by
  have hall : ∀ m < 16, hexValue (Nat.digitChar m) = m := by decide
  exact hall n h

theorem ofHexDigits_hexDigits (width n : Nat) :
    ofHexDigits (hexDigits width n) = n % 16 ^ width := by
  induction width generalizing n with
  | zero => rw [Nat.pow_zero, Nat.mod_one]; rfl
  | succ width ih =>
    have hdigit := hexValue_digitChar (Nat.mod_lt n (show 0 < 16 by decide))
    have hstep : ofHexDigits (hexDigits (width + 1) n)
        = 16 * ofHexDigits (hexDigits width (n / 16)) + hexValue (Nat.digitChar (n % 16)) := by
      rw [hexDigits, ofHexDigits, List.foldl_append]
      rfl
    rw [hstep, ih, hdigit, Nat.pow_succ', Nat.mod_mul, Nat.add_comm]

/-! ### One character -/

/-- The number of digits of the code point that is announced by a character after a backslash. -/
def codeWidth? : Char → Option Nat
  | 'x' => some 2
  | 'u' => some 4
  | 'U' => some 8
  | _ => none

/-- The character that is named by a character after a backslash. -/
def named : Char → Char
  | 'n' => '\n'
  | 'r' => '\r'
  | 't' => '\t'
  | c => c

/-- What is written after a backslash. -/
def readEscaped : List Char → Option (Char × List Char)
  | [] => none
  | d :: rest =>
    match codeWidth? d with
    | some width => some (Char.ofNat (ofHexDigits (rest.take width)), rest.drop width)
    | none => some (named d, rest)

/-- What is written first, as the character that it stands for, and what is written after it. -/
def readChar : List Char → Option (Char × List Char)
  | [] => none
  | c :: rest => if c = '\\' then readEscaped rest else some (c, rest)

/-- A code point is read back when its digits are enough for it. -/
theorem readChar_code (hd : codeWidth? d = some width) (hc : c.toNat < 16 ^ width)
    (s : List Char) :
    readChar ('\\' :: d :: (hexDigits width c.toNat ++ s)) = some (c, s) := by
  have hlength : (hexDigits width c.toNat).length = width := hexDigits_length width c.toNat
  rw [readChar, if_pos rfl, readEscaped, hd]
  simp only [List.take_left' hlength, List.drop_left' hlength, ofHexDigits_hexDigits,
    Nat.mod_eq_of_lt hc, Char.ofNat_toNat]

theorem readChar_escapeCode (c : Char) (s : List Char) :
    readChar (escapeCode c ++ s) = some (c, s) := by
  rw [escapeCode]
  split_ifs with hbyte hplane
  · exact readChar_code rfl hbyte s
  · exact readChar_code rfl hplane s
  · -- Eight digits are enough for any code point, which is a number of 32 bits.
    exact readChar_code rfl c.val.toNat_lt s

/-- The first character of a text is read back from what is written for it. -/
theorem readChar_escapeChar (hmark : mark = '"' ∨ mark = '\'') (c : Char) (s : List Char) :
    readChar (escapeChar mark c ++ s) = some (c, s) := by
  rw [escapeChar]
  split_ifs with hself hfeed hreturn htab hprint
  · rcases hself with rfl | rfl
    · rcases hmark with rfl | rfl <;> rfl
    · rfl
  · rw [hfeed]; rfl
  · rw [hreturn]; rfl
  · rw [htab]; rfl
  · exact if_neg fun h => hself (.inr h)
  · exact readChar_escapeCode c s

/-! ### Whole texts -/

theorem length_lt_of_readEscaped (h : readEscaped s = some (c, t)) : t.length < s.length := by
  cases s with
  | nil => cases h
  | cons d rest =>
    rw [readEscaped] at h
    split at h
    · cases h
      rw [List.length_drop, List.length_cons]
      omega
    · cases h
      exact Nat.lt_succ_self _

theorem length_lt_of_readChar (h : readChar s = some (c, t)) : t.length < s.length := by
  cases s with
  | nil => cases h
  | cons d rest =>
    rw [readChar] at h
    split_ifs at h
    · exact Nat.lt_succ_of_lt (length_lt_of_readEscaped h)
    · cases h
      exact Nat.lt_succ_self _

/-- The text that stands before the closing mark, which is the first one that is not escaped. -/
def readText (mark : Char) (s : List Char) : List Char :=
  if s.head? = some mark then []
  else
    match h : readChar s with
    | none => []
    | some (c, rest) =>
      have : rest.length < s.length := length_lt_of_readChar h
      c :: readText mark rest
  termination_by s.length

/-- The text that was quoted. -/
def unquote : List Char → List Char
  | [] => []
  | mark :: rest => readText mark rest

theorem readText_of_readChar (hs : s.head? ≠ some mark) (h : readChar s = some (c, t)) :
    readText mark s = c :: readText mark t := by
  rw [readText, if_neg hs]
  split
  · next hnone => rw [h] at hnone; cases hnone
  · next hsome =>
    rw [h] at hsome
    cases hsome
    rfl

/-- What is written for a character does not begin with the mark. -/
theorem head?_escapeChar_ne (hmark : mark = '"' ∨ mark = '\'') (c : Char) (s : List Char) :
    (escapeChar mark c ++ s).head? ≠ some mark := by
  have hslash : some '\\' ≠ some mark := by rcases hmark with rfl | rfl <;> decide
  rw [escapeChar]
  split_ifs with hself hfeed hreturn htab hprint
  · exact hslash
  · exact hslash
  · exact hslash
  · exact hslash
  · exact fun h => hself (.inl (Option.some.inj h))
  · rw [escapeCode]
    split_ifs <;> exact hslash

theorem readText_escape (hmark : mark = '"' ∨ mark = '\'') (s t : List Char) :
    readText mark (escape mark s ++ mark :: t) = s := by
  induction s with
  | nil => rw [escape_nil, List.nil_append, readText, if_pos List.head?_cons]
  | cons c s ih =>
    rw [escape_cons, List.append_assoc, readText_of_readChar (head?_escapeChar_ne hmark c _)
      (readChar_escapeChar hmark c _), ih]

/-- A text is read back from its quoted form. -/
theorem unquote_quoted (s : List Char) : unquote (quoted s) = s :=
  readText_escape (quoteMark_eq s) s []

/-! ### Scalars -/

/-- The scalar that was written, told by the first character. -/
def Scalar.read : List Char → Scalar
  | [] => .null
  | c :: rest =>
    if c = 'N' then .null
    else if c = 'T' then .bool true
    else if c = 'F' then .bool false
    else if c = '"' ∨ c = '\'' then .text (unquote (c :: rest))
    else if c = '-' then .int (-(Nat.ofDigitChars 10 rest 0))
    else .int (Nat.ofDigitChars 10 (c :: rest) 0)

theorem Scalar.read_cons_of_isDigit (hc : c.isDigit = true) (s : List Char) :
    Scalar.read (c :: s) = .int (Nat.ofDigitChars 10 (c :: s) 0) := by
  have hne : ∀ k : Char, k.isDigit = false → c ≠ k := by
    rintro k hk rfl
    rw [hc] at hk
    cases hk
  have hmark : ¬ (c = '"' ∨ c = '\'') := not_or.mpr ⟨hne '"' (by decide), hne '\'' (by decide)⟩
  rw [Scalar.read, if_neg (hne 'N' (by decide)), if_neg (hne 'T' (by decide)),
    if_neg (hne 'F' (by decide)), if_neg hmark, if_neg (hne '-' (by decide))]

theorem Scalar.read_intText (n : Int) : Scalar.read (intText n) = .int n := by
  have hvalue : ∀ n, Nat.ofDigitChars 10 (natText n) 0 = n := fun _ =>
    Nat.ofDigitChars_ten_toDigits
  cases n with
  | ofNat n =>
    obtain ⟨d, digits, hdigits, hd⟩ := exists_natText_eq_cons n
    rw [intText, hdigits, Scalar.read_cons_of_isDigit hd, ← hdigits, hvalue]
    rfl
  | negSucc n =>
    show Scalar.int (-(Nat.ofDigitChars 10 (natText (n + 1)) 0)) = _
    rw [hvalue]
    rfl

/-- A scalar is read back from its quoted form. -/
theorem Scalar.read_quoted (a : Scalar) : Scalar.read a.quoted = a := by
  cases a with
  | null => rfl
  | bool b => cases b <;> rfl
  | int n => exact Scalar.read_intText n
  | text s =>
    have hread : Scalar.read (WatchExpr.quoted s) = .text (unquote (WatchExpr.quoted s)) := by
      rw [WatchExpr.quoted]
      rcases quoteMark_eq s with h | h <;> rw [h] <;> rfl
    exact hread.trans (congrArg Scalar.text (unquote_quoted s))

/-! ### Printable characters -/

/-- No class of characters that are not printable has a member between the space and the tilde. -/
theorem isPrintable_of_ascii (h : 32 ≤ c.toNat ∧ c.toNat ≤ 126) : isPrintable c = true := by
  have hranges : (unprintableRanges.all fun r => decide (r.last < 32 ∨ 126 < r.first)) = true := by
    decide +kernel
  rw [← Bool.not_eq_false]
  intro hc
  obtain ⟨r, hr, hfirst, hlast⟩ := isPrintable_eq_false_iff.mp hc
  have := of_decide_eq_true (List.all_eq_true.mp hranges r hr)
  omega

/-- A text whose characters all lie there, as can be computed. -/
theorem isPrintable_of_all_ascii
    (h : (s.all fun c => decide (32 ≤ c.toNat ∧ c.toNat ≤ 126)) = true) :
    ∀ c ∈ s, isPrintable c = true := fun c hc =>
  isPrintable_of_ascii (of_decide_eq_true (List.all_eq_true.mp h c hc))

theorem isPrintable_of_mem_hexDigits (h : c ∈ hexDigits width n) : isPrintable c = true := by
  have hdigit : ∀ m < 16, 32 ≤ (Nat.digitChar m).toNat ∧ (Nat.digitChar m).toNat ≤ 126 := by decide
  induction width generalizing n with
  | zero => cases h
  | succ width ih =>
    rw [hexDigits, List.mem_append, List.mem_singleton] at h
    rcases h with h | rfl
    · exact ih h
    · exact isPrintable_of_ascii (hdigit _ (Nat.mod_lt n (by decide)))

theorem isPrintable_of_mem_escapeCode (h : d ∈ escapeCode c) : isPrintable d = true := by
  have hcode : ∀ (k : Char) (width : Nat), isPrintable k = true →
      d ∈ '\\' :: k :: hexDigits width c.toNat → isPrintable d = true := by
    intro k width hk hd
    rw [List.mem_cons, List.mem_cons] at hd
    rcases hd with rfl | rfl | hd
    · exact isPrintable_of_ascii (by decide)
    · exact hk
    · exact isPrintable_of_mem_hexDigits hd
  rw [escapeCode] at h
  split_ifs at h
  · exact hcode 'x' 2 (isPrintable_of_ascii (by decide)) h
  · exact hcode 'u' 4 (isPrintable_of_ascii (by decide)) h
  · exact hcode 'U' 8 (isPrintable_of_ascii (by decide)) h

theorem isPrintable_of_mem_escapeChar (hmark : isPrintable mark = true)
    (h : d ∈ escapeChar mark c) : isPrintable d = true := by
  have hslash : isPrintable '\\' = true := isPrintable_of_ascii (by decide)
  rw [escapeChar] at h
  split_ifs at h with hself hfeed hreturn htab hprint
  · rw [List.mem_cons, List.mem_singleton] at h
    rcases h with rfl | rfl
    · exact hslash
    · rcases hself with rfl | rfl
      · exact hmark
      · exact hslash
  · exact isPrintable_of_all_ascii (by decide) d h
  · exact isPrintable_of_all_ascii (by decide) d h
  · exact isPrintable_of_all_ascii (by decide) d h
  · rw [List.mem_singleton.mp h]
    exact hprint
  · exact isPrintable_of_mem_escapeCode h

/-- Whatever the text, every character of its quoted form is printable. -/
theorem isPrintable_of_mem_quoted (h : c ∈ quoted s) : isPrintable c = true := by
  have hmark : isPrintable (quoteMark s) = true := by
    rcases quoteMark_eq s with h | h <;> rw [h] <;> exact isPrintable_of_ascii (by decide)
  rw [quoted, List.mem_cons, List.mem_append, List.mem_singleton, escape, List.mem_flatMap] at h
  rcases h with rfl | ⟨d, -, hc⟩ | rfl
  · exact hmark
  · exact isPrintable_of_mem_escapeChar hmark hc
  · exact hmark

theorem isPrintable_of_mem_natText (h : c ∈ natText n) : isPrintable c = true := by
  have hdigit := isDigit_iff_toNat.mp (isDigit_of_mem_natText h)
  exact isPrintable_of_ascii (by omega)

theorem Scalar.isPrintable_of_mem_quoted {a : Scalar} (h : c ∈ a.quoted) :
    isPrintable c = true := by
  cases a with
  | null => exact isPrintable_of_all_ascii (by decide) c h
  | bool b => cases b <;> exact isPrintable_of_all_ascii (by decide) c h
  | int n =>
    cases n with
    | ofNat n => exact isPrintable_of_mem_natText h
    | negSucc n =>
      rcases List.mem_cons.mp h with rfl | h
      · exact isPrintable_of_ascii (by decide)
      · exact isPrintable_of_mem_natText h
  | text s => exact WatchExpr.isPrintable_of_mem_quoted h

end WatchExpr
