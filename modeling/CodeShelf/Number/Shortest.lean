import CodeShelf.Number.Binary64

/-!
# The fewest digits that read back

A floating-point number stands for every real number that rounds to it.  Its
shortest decimal is the one with the fewest digits in that interval, and the
nearest to the number itself among those.  For one digit, two digits and so on the
two neighbours of the number on the decimal grid are tested against the interval;
seventeen digits always suffice.
-/

namespace CodeShelf.Number

/-- A positive decimal `digits · 10 ^ (order - (number of digits - 1))`: the first
digit counts units of `10 ^ order`. -/
structure Decimal where
  digits : Nat
  order : Int
  deriving DecidableEq, Repr

namespace Shortest

/-- The reals that round to a magnitude, in quarters of its last place: from `low` to
`high` around `value`, with the ends when `closed`. -/
structure Interval where
  low : Nat
  value : Nat
  high : Nat
  closed : Bool
  deriving DecidableEq, Repr

/-- Below a power of two the numbers lie twice as close. -/
def interval (m : Magnitude) : Interval where
  low :=
    if m.mantissa = twoPow 52 ∧ Magnitude.minExponent < m.exponent
    then 4 * m.mantissa - 1 else 4 * m.mantissa - 2
  value := 4 * m.mantissa
  high := 4 * m.mantissa + 2
  closed := m.mantissa % 2 == 0

def Interval.holds (i : Interval) (num den : Nat) : Bool :=
  if i.closed then i.low * den ≤ num && num ≤ i.high * den
  else i.low * den < num && num < i.high * den

/-- The order of `num / den`: the `p` with `10 ^ p ≤ num / den < 10 ^ (p + 1)`. -/
def decimalOrder (num den : Nat) : Int :=
  if den ≤ num then ((Nat.toDigits 10 (num / den)).length : Int) - 1
  else
    match (List.range 400).find? fun j => den ≤ num * tenPow j with
    | some j => -(j : Int)
    | none => 0

/-- The best decimal with `count` digits, if one of the number's two neighbours on
that grid lies in the interval.  `unitNum / unitDen` is a quarter of the last place
and `order` the order of the number. -/
def candidate? (i : Interval) (unitNum unitDen : Nat) (order : Int) (count : Nat) :
    Option Nat :=
  -- One step of the grid is `10 ^ (order - count + 1)`.
  let step : Int := order - count + 1
  let stepNum := tenPow step.toNat
  let stepDen := tenPow (-step).toNat
  -- The number in steps, and a decimal of `d` steps in quarters.
  let num := i.value * unitNum * stepDen
  let den := unitDen * stepNum
  let below := num / den
  let twice := 2 * (num % den)
  let fits (d : Nat) : Bool := i.holds (d * stepNum * unitDen) (unitNum * stepDen)
  let nearFirst : List Nat :=
    if twice < den ∨ (twice = den ∧ below % 2 = 0)
    then [below, below + 1] else [below + 1, below]
  nearFirst.find? fits

def ofMagnitude (m : Magnitude) : Decimal :=
  let i := interval m
  let quarter : Int := m.exponent - 2
  let unitNum := twoPow quarter.toNat
  let unitDen := twoPow (-quarter).toNat
  let order := decimalOrder (i.value * unitNum) unitDen
  let found := (List.range 17).findSome? fun n =>
    (candidate? i unitNum unitDen order (n + 1)).map fun d => (n + 1, d)
  match found with
  | some (count, d) =>
      if d = tenPow count then ⟨1, order + 1⟩ else ⟨d, order⟩
  | none => ⟨0, 0⟩

end Shortest

end CodeShelf.Number
