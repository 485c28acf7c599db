import CodeShelf.Number.Power

/-!
# Binary floating-point numbers

The finite numbers of the 64-bit binary floating-point format, as a sign and an
integer mantissa times a power of two.  Everything is computed exactly in natural
numbers and rounded once, to the nearest number of the format and, between two
equally near ones, to the one with the even mantissa.
-/

namespace CodeShelf.Number

/-- A magnitude of the format: `mantissa · 2 ^ exponent`.  The mantissa is below
`2 ^ 53`, the exponent at least `-1074`, and the mantissa at least `2 ^ 52` where
the exponent is above that bound. -/
structure Magnitude where
  mantissa : Nat
  exponent : Int
  deriving DecidableEq, Repr

structure Binary64 where
  negative : Bool
  magnitude : Magnitude
  deriving DecidableEq, Repr

namespace Magnitude

def minExponent : Int := -1074

def maxExponent : Int := 971

def zero : Magnitude := ⟨0, minExponent⟩

/-- The quotient rounded to the nearest natural number, a half to the even one. -/
def roundDiv (num den : Nat) : Nat :=
  let low := num / den
  let rest := 2 * (num % den)
  if rest < den then low
  else if den < rest then low + 1
  else low + low % 2

/-- The exponent `e` with `2 ^ e ≤ num / den < 2 ^ (e + 1)`, for positive `num` and
`den`. -/
def binaryOrder (num den : Nat) : Int :=
  let guess : Int := (Nat.log2 num : Int) - (Nat.log2 den : Int)
  if 0 ≤ guess then
    if den * twoPow guess.toNat ≤ num then guess else guess - 1
  else
    if den ≤ num * twoPow (-guess).toNat then guess else guess - 1

/-- A mantissa that rounding has carried to `2 ^ 53` moves to the next exponent;
beyond the greatest exponent there is no number. -/
def normalize (mantissa : Nat) (exponent : Int) : Option Magnitude :=
  let m : Magnitude :=
    if mantissa = twoPow 53 then ⟨twoPow 52, exponent + 1⟩ else ⟨mantissa, exponent⟩
  if maxExponent < m.exponent then none else some m

def ofRatio (num den : Nat) : Option Magnitude :=
  if num = 0 then some zero
  else
    let exponent := max (binaryOrder num den - 52) minExponent
    if 0 ≤ exponent then
      normalize (roundDiv num (den * twoPow exponent.toNat)) exponent
    else
      normalize (roundDiv (num * twoPow (-exponent).toNat) den) exponent

def numerator (m : Magnitude) : Nat :=
  m.mantissa * twoPow m.exponent.toNat

def denominator (m : Magnitude) : Nat :=
  twoPow (-m.exponent).toNat

def mul (a b : Magnitude) : Option Magnitude :=
  ofRatio (a.numerator * b.numerator) (a.denominator * b.denominator)

def div (a b : Magnitude) : Option Magnitude :=
  ofRatio (a.numerator * b.denominator) (a.denominator * b.numerator)

def ofTenPow (n : Nat) : Option Magnitude :=
  ofRatio (tenPow n) 1

def maxTenPow : Nat := 308

def scaleUp (m : Magnitude) (n : Nat) : Option Magnitude := do
  if maxTenPow < n then
    if m.mantissa = 0 then some zero else none
  else m.mul (← ofTenPow n)

/-- The magnitude over a power of ten, itself rounded first.  Beyond the greatest
power the division is done in two parts, and beyond twice that nothing is left. -/
def scaleDown (m : Magnitude) (n : Nat) : Option Magnitude := do
  if n ≤ maxTenPow then m.div (← ofTenPow n)
  else if n ≤ 2 * maxTenPow then
    (← m.div (← ofTenPow maxTenPow)).div (← ofTenPow (n - maxTenPow))
  else some zero

def ofDecimal (significand : Nat) (exponent : Int) : Option Magnitude := do
  let m ← ofRatio significand 1
  if 0 ≤ exponent then m.scaleUp exponent.toNat else m.scaleDown (-exponent).toNat

end Magnitude

end CodeShelf.Number
