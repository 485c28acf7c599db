/-!
# Decimal digits of integers
-/

namespace CodeShelf

def natText (n : Nat) : List Char :=
  Nat.toDigits 10 n

def intText (n : Int) : List Char :=
  if n < 0 then '-' :: natText n.natAbs else natText n.natAbs

end CodeShelf
