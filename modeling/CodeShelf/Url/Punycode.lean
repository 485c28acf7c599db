/-!
# Punycode

The spelling of a text over ASCII alone: the ASCII characters first, then the others
as numbers in base 36 that say where each is inserted.
-/

namespace CodeShelf.Url.Punycode

def initialCode : Nat := 0x80

def initialBias : Nat := 72

def numberBound : Nat := 4294967296

def threshold (position bias : Nat) : Nat :=
  max 1 (min 26 (position - bias))

theorem threshold_pos (position bias : Nat) : 0 < threshold position bias :=
  Nat.lt_of_lt_of_le Nat.zero_lt_one (Nat.le_max_left ..)

/-- Scales a delta down until it is small, counting the positions passed. -/
def settle (delta positions : Nat) : Nat :=
  if h : 455 < delta then settle (delta / 35) (positions + 36)
  else positions + 36 * delta / (delta + 38)
termination_by delta
decreasing_by exact Nat.div_lt_self (by omega) (by omega)

def adapt (delta count : Nat) (first : Bool) : Nat :=
  let delta := if first then delta / 700 else delta / 2
  settle (delta + delta / count) 0

def digit (n : Nat) : Char :=
  Char.ofNat (if n < 26 then 0x61 + n else 0x30 + (n - 26))

def digitValue? (c : Char) : Option Nat :=
  let n := c.toNat
  if 0x61 ≤ n ∧ n ≤ 0x7A then some (n - 0x61)
  else if 0x41 ≤ n ∧ n ≤ 0x5A then some (n - 0x41)
  else if 0x30 ≤ n ∧ n ≤ 0x39 then some (n - 0x30 + 26)
  else none

def number (bias position q : Nat) : List Char :=
  let t := threshold position bias
  if h : q < t then [digit q]
  else digit (t + (q - t) % (36 - t)) :: number bias (position + 36) ((q - t) / (36 - t))
termination_by q
decreasing_by
  have : 0 < threshold position bias := threshold_pos position bias
  exact Nat.lt_of_le_of_lt (Nat.div_le_self ..) (by omega)

/-- Where the encoder stands: the delta so far, the bias, and the number of
characters that are in place. -/
structure State where
  delta : Nat
  bias : Nat
  placed : Nat
  output : List Char

def place (literals code : Nat) (s : State) (cs : List Char) : State :=
  cs.foldl
    (fun s c =>
      if c.toNat < code then { s with delta := s.delta + 1 }
      else if c.toNat = code then
        { delta := 0
          bias := adapt s.delta (s.placed + 1) (s.placed == literals)
          placed := s.placed + 1
          output := s.output ++ number s.bias 36 s.delta }
      else s)
    s

def codesOf (cs : List Char) : List Nat :=
  ((cs.map Char.toNat).filter (initialCode ≤ ·)).eraseDups.mergeSort

def encode (cs : List Char) : List Char :=
  let literal := cs.filter fun c => c.toNat < initialCode
  let start : State := ⟨0, initialBias, literal.length, []⟩
  let result := (codesOf cs).foldl
    (fun (acc : State × Nat) code =>
      let s := { acc.1 with delta := acc.1.delta + (code - acc.2) * (acc.1.placed + 1) }
      let s := place literal.length code s cs
      ({ s with delta := s.delta + 1 }, code + 1))
    (start, initialCode)
  (if literal.isEmpty then [] else literal ++ ['-']) ++ result.1.output

/-- Where the decoder stands: the index before the number at hand, the index so far,
the weight and position of the next digit, the current code point and bias, and the
characters in place. -/
structure Insertion where
  before : Nat
  index : Nat
  weight : Nat
  position : Nat
  code : Nat
  bias : Nat
  output : List Char

/-- Reads the numbers one digit at a time.  Fails on a character that is no digit, a
number that does not end or grows too large, or a code point that is no character. -/
def insertAll (s : Insertion) : List Char → Option (List Char)
  | [] => if s.position = 36 then some s.output else none
  | c :: rest => do
      let d ← digitValue? c
      let index := s.index + d * s.weight
      let t := threshold s.position s.bias
      if numberBound ≤ index then none
      else if d < t then
        let count := s.output.length + 1
        let code := s.code + index / count
        let at_ := index % count
        if code < 0x110000 ∧ ¬(0xD800 ≤ code ∧ code < 0xE000) then
          insertAll
            { before := at_ + 1
              index := at_ + 1
              weight := 1
              position := 36
              code := code
              bias := adapt (index - s.before) count (s.before == 0)
              output := s.output.take at_ ++ Char.ofNat code :: s.output.drop at_ }
            rest
        else none
      else if numberBound ≤ s.weight * (36 - t) then none
      else
        insertAll
          { s with index := index, weight := s.weight * (36 - t), position := s.position + 36 }
          rest

def decode? (cs : List Char) : Option (List Char) :=
  -- The last hyphen ends the literals; where it stands first there are none for it to end.
  let tail := (cs.reverse.takeWhile (· != '-')).reverse
  let literal := cs.take (cs.length - tail.length)
  if literal = ['-'] then none
  else if literal.all fun c => c.toNat < initialCode then
    insertAll ⟨0, 0, 1, 36, initialCode, initialBias, literal.dropLast⟩ tail
  else none

end CodeShelf.Url.Punycode
