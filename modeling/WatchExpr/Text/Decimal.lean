/-!
# Decimal numerals

Numbers are written in base ten, with no leading zero, and with a minus sign when they are
negative.
-/

namespace WatchExpr

/-- The decimal digits of a natural number. -/
def natText (n : Nat) : List Char := Nat.toDigits 10 n

/-- The decimal digits of an integer, after a minus sign if it is negative. -/
def intText : Int → List Char
  | .ofNat n => natText n
  | .negSucc n => '-' :: natText (n + 1)

end WatchExpr
