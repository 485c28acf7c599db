/-!
# Hexadecimal digits

Reading takes digits in either case; writing has one function for each case.
-/

namespace CodeShelf.Text

def hexValue? (c : Char) : Option Nat :=
  let n := c.toNat
  if 0x30 ≤ n ∧ n ≤ 0x39 then some (n - 0x30)
  else if 0x41 ≤ n ∧ n ≤ 0x46 then some (n - 0x37)
  else if 0x61 ≤ n ∧ n ≤ 0x66 then some (n - 0x57)
  else none

def upperHexDigit (n : Nat) : Char :=
  Char.ofNat (if n < 10 then 0x30 + n else 0x37 + n)

def lowerHexDigit (n : Nat) : Char :=
  Char.ofNat (if n < 10 then 0x30 + n else 0x57 + n)

theorem hexValue?_upperHexDigit : ∀ n : Fin 16, hexValue? (upperHexDigit n) = some n.val := by
  decide

theorem hexValue?_lowerHexDigit : ∀ n : Fin 16, hexValue? (lowerHexDigit n) = some n.val := by
  decide

end CodeShelf.Text
