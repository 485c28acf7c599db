/-!
# Tables of code points

Three forms in which a property of characters is listed: ranges of code points, ranges
that are shifted as a whole, and rows of consecutive code points with a text for each.
-/

namespace CodeShelf.Text

def inRanges (ranges : List (Nat × Nat)) (code : Nat) : Bool :=
  ranges.any fun range => range.1 ≤ code && code ≤ range.2

/-- Every `step`-th code point from `first` to `last` has its counterpart `shift` places
further on. -/
structure Shift where
  first : Nat
  last : Nat
  step : Nat
  shift : Int
  deriving DecidableEq, Repr

namespace Shift

def covers (entry : Shift) (code : Nat) : Bool :=
  entry.first ≤ code && code ≤ entry.last && (code - entry.first) % entry.step == 0

def apply (entry : Shift) (code : Nat) : Nat :=
  (code + entry.shift).toNat

end Shift

def shifted? (entries : List Shift) (code : Nat) : Option Nat :=
  (entries.find? (·.covers code)).map (·.apply code)

/-- Consecutive code points from `first` on, with the code points that each stands for. -/
structure Row where
  first : Nat
  texts : List (List Nat)
  deriving DecidableEq, Repr

namespace Row

def get? (row : Row) (code : Nat) : Option (List Nat) :=
  if row.first ≤ code then row.texts[code - row.first]? else none

end Row

def rowText? (rows : List Row) (code : Nat) : Option (List Nat) :=
  rows.findSome? (·.get? code)

end CodeShelf.Text
