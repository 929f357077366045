import Mathlib.Data.List.Forall2
import WatchExpr.Proofs.Suffix

/-!
# Characters that can take each other's place

Two characters are `Alike` when they are the same, or both blanks, or one letter in its two cases,
or both of no interest to any check.  Every class of characters that the checks go by is the same
for alike characters (`Alike.congr`), and so is every sign that a check looks for
(`Alike.eq_iff`).

Two texts are alike when they are so character by character, which is `List.Forall₂ Alike`.  What is
left of alike texts after trimming is alike (`forall₂_alike_trim`), and they end in the same
display hint or in none (`forall₂_alike_splitSuffix`).
-/

namespace WatchExpr

variable {c d k : Char} {s t : List Char}

/-- The signs that some check looks for. -/
def checkedSigns : List Char :=
  ['[', ']', '(', ')', '"', '\'', ',', '.', '-', '<', '>', '=', '!', '&', '|', '+', '/', '%', '^',
    '?', ':', '*', '~']

/-- Whether the character is of no interest to any check. -/
def isInert (c : Char) : Bool := !isBlank c && !isWord c && !checkedSigns.contains c

/-- The two characters can take each other's place. -/
inductive Alike : Char → Char → Prop where
  | same (c : Char) : Alike c c
  | blank {c d : Char} (hc : isBlank c = true) (hd : isBlank d = true) : Alike c d
  /-- They are the same ASCII letter, in either case. -/
  | letter {c d : Char} (hc : c.isAlpha = true) (hd : d.isAlpha = true)
      (hcase : c.toLower = d.toLower) : Alike c d
  | inert {c d : Char} (hc : isInert c = true) (hd : isInert d = true) : Alike c d

instance : Std.Refl Alike := ⟨.same⟩

theorem Alike.symm (h : Alike c d) : Alike d c := by
  cases h with
  | same => exact .same _
  | blank hc hd => exact .blank hd hc
  | letter hc hd hcase => exact .letter hd hc hcase.symm
  | inert hc hd => exact .inert hd hc

theorem isInert_iff :
    isInert c = true ↔ isBlank c = false ∧ isWord c = false ∧ c ∉ checkedSigns := by
  simp [isInert, and_assoc]

/-! ### The two cases of a letter -/

theorem isNameStart_of_isAlpha (h : c.isAlpha = true) : isNameStart c = true := by
  simp [isNameStart, h]

theorem toNat_toLower (c : Char) :
    c.toLower.toNat = if 65 ≤ c.toNat ∧ c.toNat ≤ 90 then c.toNat + 32 else c.toNat := by
  unfold Char.toLower
  split
  · next h =>
    have hrange : 65 ≤ c.toNat ∧ c.toNat ≤ 90 := h
    rw [if_pos hrange]
    exact Nat.mod_eq_of_lt (show c.toNat + 32 < 2 ^ 32 by omega)
  · next h => exact (if_neg h).symm

/-- Two characters that agree but for their case are 32 code points apart, or the same. -/
theorem toNat_of_toLower_eq (h : c.toLower = d.toLower) :
    c.toNat = d.toNat ∨ (65 ≤ c.toNat ∧ c.toNat ≤ 90 ∧ d.toNat = c.toNat + 32) ∨
      (65 ≤ d.toNat ∧ d.toNat ≤ 90 ∧ c.toNat = d.toNat + 32) := by
  have hcode := congrArg Char.toNat h
  rw [toNat_toLower, toNat_toLower] at hcode
  split_ifs at hcode <;> omega

/-- A lower-case letter has itself and one other character in its two cases. -/
theorem toLower_eq_iff (hk : 97 ≤ k.toNat ∧ k.toNat ≤ 122) :
    c.toLower = k ↔ c = k ∨ c.toNat + 32 = k.toNat := by
  rw [← Char.toNat_inj, toNat_toLower, ← Char.toNat_inj]
  split_ifs <;> omega

/-- A letter stands for a display format in either case. -/
theorem ofChar?_eq_some_iff {l : FormatLetter} :
    FormatLetter.ofChar? c = some l ↔ c.toLower = l.toChar := by
  constructor
  · intro h
    unfold FormatLetter.ofChar? at h
    split at h <;> cases h <;> rfl
  · intro h
    rcases (toLower_eq_iff (by cases l <;> decide)).mp h with rfl | hupper
    · exact FormatLetter.ofChar?_toChar l
    · have hc : c = Char.ofNat (l.toChar.toNat - 32) := by
        rw [← hupper, Nat.add_sub_cancel, Char.ofNat_toNat]
      rw [hc]
      cases l <;> rfl

namespace Alike

/-! ### Classes of characters -/

/-- What is the same for a letter in both cases, and for all characters outside of words, is the
same for alike characters. -/
theorem congr {α : Type} {g : Char → α} {a : α} (h : Alike c d)
    (hletter : ∀ x y : Char, x.isAlpha = true → y.isAlpha = true → x.toLower = y.toLower →
      g x = g y)
    (hother : ∀ x : Char, isWord x = false → g x = a) : g c = g d := by
  cases h with
  | same => rfl
  | blank hc hd => rw [hother c (isWord_of_isBlank hc), hother d (isWord_of_isBlank hd)]
  | letter hc hd hcase => exact hletter c d hc hd hcase
  | inert hc hd =>
    rw [hother c (isInert_iff.mp hc).2.1, hother d (isInert_iff.mp hd).2.1]

theorem isBlank_eq (h : Alike c d) : isBlank c = isBlank d := by
  have hletter : ∀ x : Char, x.isAlpha = true → isBlank x = false := fun x hx =>
    isBlank_of_isWord (isWord_of_isNameStart (isNameStart_of_isAlpha hx))
  cases h with
  | same => rfl
  | blank hc hd => rw [hc, hd]
  | letter hc hd _ => rw [hletter c hc, hletter d hd]
  | inert hc hd => rw [(isInert_iff.mp hc).1, (isInert_iff.mp hd).1]

theorem isDigit_eq (h : Alike c d) : c.isDigit = d.isDigit := by
  have hletter : ∀ x : Char, x.isAlpha = true → x.isDigit = false := fun x hx =>
    isDigit_of_isNameStart (isNameStart_of_isAlpha hx)
  refine h.congr (fun x y hx hy _ => ?_) fun x hx => (Bool.or_eq_false_iff.mp hx).1
  rw [hletter x hx, hletter y hy]

theorem isNameStart_eq (h : Alike c d) : isNameStart c = isNameStart d := by
  refine h.congr (fun x y hx hy _ => ?_) fun x hx => (Bool.or_eq_false_iff.mp hx).2
  rw [isNameStart_of_isAlpha hx, isNameStart_of_isAlpha hy]

theorem isWord_eq (h : Alike c d) : isWord c = isWord d := by
  rw [isWord, isWord, h.isDigit_eq, h.isNameStart_eq]

theorem isHexDigit_eq (h : Alike c d) : isHexDigit c = isHexDigit d := by
  refine h.congr (a := false) (fun x y _ _ hcase => ?_) fun x hx => ?_
  · have hcode := toNat_of_toLower_eq hcase
    rw [Bool.eq_iff_iff, isHexDigit_iff_toNat, isHexDigit_iff_toNat]
    omega
  · rw [Bool.eq_false_iff]
    intro hhex
    rw [isWord_of_isHexDigit hhex] at hx
    cases hx

/-- A letter keeps being that letter, in either case. -/
theorem toLower_eq_iff (h : Alike c d) (hk : 97 ≤ k.toNat ∧ k.toNat ≤ 122) :
    c.toLower = k ↔ d.toLower = k := by
  have hsame := h.congr (g := fun x => decide (x.toLower = k)) (a := false)
    (fun x y _ _ hcase => by rw [hcase]) fun x hx => ?_
  · simpa using hsame
  · rw [decide_eq_false_iff_not]
    intro hcase
    have hcode := congrArg Char.toNat hcase
    rw [toNat_toLower] at hcode
    rw [Bool.eq_false_iff, ne_eq, isWord_iff_toNat] at hx
    split_ifs at hcode <;> omega

theorem ofChar?_eq (h : Alike c d) : FormatLetter.ofChar? c = FormatLetter.ofChar? d := by
  ext l
  rw [ofChar?_eq_some_iff, ofChar?_eq_some_iff, h.toLower_eq_iff (by cases l <;> decide)]

/-! ### Single characters -/

/-- Whether the character is alike to itself only. -/
def isSingular (k : Char) : Bool := !isBlank k && !k.isAlpha && !isInert k

/-- Where a sign, or another character that is alike to itself only, stands in one of two alike
texts, it stands in the other. -/
theorem eq_iff (h : Alike c d) (hk : isSingular k = true) : c = k ↔ d = k := by
  simp only [isSingular, Bool.and_eq_true, Bool.not_eq_true'] at hk
  obtain ⟨⟨hblank, halpha⟩, hinert⟩ := hk
  have hsame : ∀ x y : Char, Alike x y → x = k → y = k := by
    rintro x y hxy rfl
    cases hxy with
    | same => rfl
    | blank hx _ => rw [hblank] at hx; cases hx
    | letter hx _ _ => rw [halpha] at hx; cases hx
    | inert hx _ => rw [hinert] at hx; cases hx
  exact ⟨hsame c d h, hsame d c h.symm⟩

theorem beq_eq (h : Alike c d) (hk : isSingular k = true) : (c == k) = (d == k) := by
  rw [Bool.eq_iff_iff, beq_iff_eq, beq_iff_eq, h.eq_iff hk]

theorem isOperandEnd_eq (h : Alike c d) : isOperandEnd c = isOperandEnd d := by
  rw [isOperandEnd, isOperandEnd, h.isWord_eq, h.beq_eq (by decide)]

end Alike

/-! ### Alike texts -/

theorem forall₂_alike_symm (h : List.Forall₂ Alike s t) : List.Forall₂ Alike t s :=
  .flip (h.imp fun _ _ => Alike.symm)

/-- A text that is alike to two texts in a row falls into two in the same way. -/
theorem exists_append_of_forall₂ {x y : List Char} (h : List.Forall₂ Alike (x ++ y) t) :
    ∃ x' y', t = x' ++ y' ∧ List.Forall₂ Alike x x' ∧ List.Forall₂ Alike y y' := by
  induction x generalizing t with
  | nil => exact ⟨[], t, rfl, .nil, h⟩
  | cons c x ih =>
    cases h with
    | cons hcd h =>
      obtain ⟨x', y', rfl, hx, hy⟩ := ih h
      exact ⟨_ :: x', y', rfl, .cons hcd hx, hy⟩

/-- A trait that passes from a text to every alike text is the same in alike texts. -/
theorem eq_of_forall₂_alike {p : List Char → Bool}
    (hp : ∀ x y, List.Forall₂ Alike x y → p x = true → p y = true)
    (h : List.Forall₂ Alike s t) : p s = p t :=
  Bool.eq_iff_iff.mpr ⟨hp s t h, hp t s (forall₂_alike_symm h)⟩

theorem all_eq_of_forall₂ {p : Char → Bool} (hp : ∀ c d, Alike c d → p c = p d)
    (h : List.Forall₂ Alike s t) : s.all p = t.all p := by
  induction h with
  | nil => rfl
  | cons hcd _ ih => rw [List.all_cons, List.all_cons, hp _ _ hcd, ih]

theorem isEmpty_eq_of_forall₂ (h : List.Forall₂ Alike s t) : s.isEmpty = t.isEmpty := by
  cases h <;> rfl

theorem head?_eq_some_iff_of_forall₂ (h : List.Forall₂ Alike s t)
    (hk : Alike.isSingular k = true) : s.head? = some k ↔ t.head? = some k := by
  cases h with
  | nil => rfl
  | cons hcd _ => simpa using hcd.eq_iff hk

theorem mem_iff_of_forall₂ (h : List.Forall₂ Alike s t) (hk : Alike.isSingular k = true) :
    k ∈ s ↔ k ∈ t := by
  induction h with
  | nil => rfl
  | cons hcd _ ih => rw [List.mem_cons, List.mem_cons, ih, eq_comm, hcd.eq_iff hk, eq_comm]

/-! ### Trimming and the display hint -/

theorem forall₂_alike_trimStart (h : List.Forall₂ Alike s t) :
    List.Forall₂ Alike (trimStart s) (trimStart t) := by
  induction h with
  | nil => exact .nil
  | @cons c d s t hcd hst ih =>
    by_cases hblank : isBlank d = true
    · simpa [trimStart, hcd.isBlank_eq, hblank] using ih
    · simpa [trimStart, hcd.isBlank_eq, hblank] using ⟨hcd, hst⟩

theorem forall₂_alike_trim (h : List.Forall₂ Alike s t) : List.Forall₂ Alike (trim s) (trim t) :=
  List.rel_reverse (forall₂_alike_trimStart (List.rel_reverse (forall₂_alike_trimStart h)))

/-- A text that is alike to one with a display hint has the same hint. -/
theorem exists_splitSuffix_of_forall₂ {x : List Char} {l : FormatLetter}
    (h : List.Forall₂ Alike s t) (hs : splitSuffix s = (x, some l)) :
    ∃ y, List.Forall₂ Alike x y ∧ splitSuffix t = (y, some l) := by
  rcases splitSuffix_cases s with ⟨x', c, l', hc, rfl, hsplit⟩ | hsplit
  · obtain ⟨rfl, hl⟩ := Prod.mk.inj (hsplit.symm.trans hs)
    obtain rfl := Option.some.inj hl
    obtain ⟨y, tail, rfl, hxy, htail⟩ := exists_append_of_forall₂ h
    cases htail with
    | cons hcomma htail =>
      cases htail with
      | cons hcd hnil =>
        cases hnil
        rw [(hcomma.eq_iff (k := ',') (by decide)).mp rfl]
        exact ⟨y, hxy, splitSuffix_append y (hcd.ofChar?_eq ▸ hc)⟩
  · rw [hsplit] at hs
    cases hs

/-- Alike texts end in the same display hint, or both in none, and what is left is alike. -/
theorem forall₂_alike_splitSuffix (h : List.Forall₂ Alike s t) :
    List.Forall₂ Alike (splitSuffix s).1 (splitSuffix t).1 ∧
      (splitSuffix s).2 = (splitSuffix t).2 := by
  cases hs : (splitSuffix s).2 with
  | some l =>
    obtain ⟨y, hxy, ht⟩ := exists_splitSuffix_of_forall₂ h (Prod.ext rfl hs)
    rw [ht]
    exact ⟨hxy, rfl⟩
  | none =>
    cases ht : (splitSuffix t).2 with
    | some l =>
      obtain ⟨y, -, hs'⟩ := exists_splitSuffix_of_forall₂ (forall₂_alike_symm h) (Prod.ext rfl ht)
      rw [hs'] at hs
      cases hs
    | none =>
      rw [splitSuffix_fst_of_snd hs, splitSuffix_fst_of_snd ht]
      exact ⟨h, rfl⟩

end WatchExpr
