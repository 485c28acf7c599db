import CodeShelf.Json.Basic
import CodeShelf.Text.Hex

/-!
# Reading JSON

A strict reader of JSON texts over lists of characters.  A text is one value with
blanks around it; the blanks are space, tab, line feed and carriage return.  Values
nest at most `maxDepth` deep.  Of members with one key the last value stands, in the
place of the first.

Integers of 64 bits are read as integers.  Every other number is a floating-point
number: its digits are taken into a significand as long as that fits 64 bits, the
digits after that count only as places, and the significand is scaled by the power
of ten that remains.
-/

namespace CodeShelf.Json

open Number Text

def maxDepth : Nat := 127

def isSpace (c : Char) : Bool :=
  c == ' ' || c == '\t' || c == '\n' || c == '\r'

def skipSpace (cs : List Char) : List Char :=
  cs.dropWhile isSpace

/-! ## Numbers -/

def isDigit (c : Char) : Bool :=
  0x30 ≤ c.toNat && c.toNat ≤ 0x39

def digitValue (c : Char) : Nat :=
  c.toNat - 0x30

def digitsValue (n : Nat) (digits : List Char) : Nat :=
  digits.foldl (fun acc c => acc * 10 + digitValue c) n

/-- A number as it is written: sign, whole digits, the digits after the point if
there is one, and the exponent if there is one. -/
structure Numeral where
  negative : Bool
  whole : List Char
  fraction : Option (List Char)
  exponent : Option Int
  deriving DecidableEq, Repr

def readDigits (cs : List Char) : Option (List Char × List Char) :=
  match cs.takeWhile isDigit with
  | [] => none
  | d :: digits => some (d :: digits, cs.dropWhile isDigit)

/-- Reads the whole digits of a number; a zero stands alone. -/
def readWhole (cs : List Char) : Option (List Char × List Char) := do
  let (digits, rest) ← readDigits cs
  if digits.head? = some '0' ∧ digits.length ≠ 1 then none else some (digits, rest)

def readFraction : List Char → Option (Option (List Char) × List Char)
  | '.' :: rest => do
      let (digits, rest) ← readDigits rest
      some (some digits, rest)
  | rest => some (none, rest)

def readSign : List Char → Bool × List Char
  | '+' :: rest => (false, rest)
  | '-' :: rest => (true, rest)
  | rest => (false, rest)

def readExponent : List Char → Option (Option Int × List Char)
  | [] => some (none, [])
  | c :: rest =>
      if c = 'e' ∨ c = 'E' then do
        let (negative, rest) := readSign rest
        let (digits, rest) ← readDigits rest
        let n : Int := digitsValue 0 digits
        some (some (if negative then -n else n), rest)
      else some (none, c :: rest)

def readNumeral (cs : List Char) : Option (Numeral × List Char) := do
  let (negative, cs) :=
    match cs with
    | '-' :: rest => (true, rest)
    | rest => (false, rest)
  let (whole, cs) ← readWhole cs
  let (fraction, cs) ← readFraction cs
  let (exponent, cs) ← readExponent cs
  some (⟨negative, whole, fraction, exponent⟩, cs)

/-- Takes digits into the significand `n` as long as it stays below `2 ^ 64`, and
returns the digits left over. -/
def absorb (n : Nat) : List Char → Nat × List Char
  | [] => (n, [])
  | c :: rest =>
      let next := n * 10 + digitValue c
      if next < twoPow 64 then absorb next rest else (n, c :: rest)

def Numeral.toFloat? (n : Numeral) : Option Binary64 :=
  let (significand, lost) := absorb 0 n.whole
  let digits := n.fraction.getD []
  let (significand, unused) := absorb significand digits
  let places : Int := digits.length - unused.length
  let exponent : Int := lost.length - places + n.exponent.getD 0
  (Magnitude.ofDecimal significand exponent).map fun m => ⟨n.negative, m⟩

/-- The number that a numeral stands for: an integer where it is written as one and
fits 64 bits, with or without a sign.  Minus zero is no integer. -/
def Numeral.toNumber? (n : Numeral) : Option JsonNumber :=
  if n.fraction.isNone && n.exponent.isNone then
    let value := digitsValue 0 n.whole
    if n.negative then
      if 0 < value ∧ value ≤ twoPow 63 then some (.int (-(value : Int)))
      else n.toFloat?.map .float
    else if value < twoPow 64 then some (.int value)
    else n.toFloat?.map .float
  else n.toFloat?.map .float

def readNumber (cs : List Char) : Option (Json × List Char) := do
  let (numeral, rest) ← readNumeral cs
  let number ← numeral.toNumber?
  some (.num number, rest)

/-! ## Strings -/

/-- Where the reader stands inside a string.  An escaped code unit above U+FFFF is
written as two escapes, a high one and a low one; `high` is a first one that waits
for its second. -/
inductive StringState where
  | plain
  | paired (high : Nat)
  | escape (high : Option Nat)
  | hex (left : Nat) (value : Nat) (high : Option Nat)
  deriving DecidableEq, Repr

def escapeLetter? (c : Char) : Option Char :=
  match c with
  | '"' => some '"'
  | '\\' => some '\\'
  | '/' => some '/'
  | 'b' => some (Char.ofNat 0x08)
  | 'f' => some (Char.ofNat 0x0C)
  | 'n' => some '\n'
  | 'r' => some '\r'
  | 't' => some '\t'
  | _ => none

def isHighSurrogate (n : Nat) : Bool := 0xD800 ≤ n && n < 0xDC00

def isLowSurrogate (n : Nat) : Bool := 0xDC00 ≤ n && n < 0xE000

def closeEscape (high : Option Nat) (n : Nat) : Option (Option Char × StringState) :=
  match high with
  | some h =>
      if isLowSurrogate n then
        some (some (Char.ofNat (0x10000 + (h - 0xD800) * 0x400 + (n - 0xDC00))), .plain)
      else none
  | none =>
      if isHighSurrogate n then some (none, .paired n)
      else if isLowSurrogate n then none
      else some (some (Char.ofNat n), .plain)

def stringStep : StringState → Char → Option (Option Char × StringState)
  | .plain, c =>
      if c = '\\' then some (none, .escape none)
      else if c.toNat < 0x20 then none
      else some (some c, .plain)
  | .paired high, c => if c = '\\' then some (none, .escape (some high)) else none
  | .escape high, c =>
      if c = 'u' then some (none, .hex 3 0 high)
      else if high.isSome then none
      else (escapeLetter? c).map fun d => (some d, .plain)
  | .hex left value high, c => do
      let value := value * 16 + (← hexValue? c)
      match left with
      | 0 => closeEscape high value
      | left + 1 => some (none, .hex left value high)

def readString (state : StringState) : List Char → Option (List Char × List Char)
  | [] => none
  | c :: rest =>
      if c = '"' ∧ state = .plain then some ([], rest)
      else
        match stringStep state c with
        | none => none
        | some (none, next) => readString next rest
        | some (some d, next) => (readString next rest).map fun r => (d :: r.1, r.2)

/-! ## Values -/

def dropWord? (word cs : List Char) : Option (List Char) :=
  if word.isPrefixOf cs then some (cs.drop word.length) else none

def readWord (cs : List Char) : Option (Json × List Char) :=
  match dropWord? ['n', 'u', 'l', 'l'] cs with
  | some rest => some (.null, rest)
  | none =>
      match dropWord? ['t', 'r', 'u', 'e'] cs with
      | some rest => some (.bool true, rest)
      | none => (dropWord? ['f', 'a', 'l', 's', 'e'] cs).map fun rest => (.bool false, rest)

mutual

/-- Reads a value with at most `depth` arrays and objects inside one another.  The
first argument bounds the number of calls. -/
def readValue : Nat → Nat → List Char → Option (Json × List Char)
  | 0, _, _ => none
  | fuel + 1, depth, cs =>
      match skipSpace cs with
      | [] => none
      | c :: rest =>
          if c = '"' then
            (readString .plain rest).map fun r => (.str (String.ofList r.1), r.2)
          else if c = '[' then
            match depth with
            | 0 => none
            | depth + 1 =>
                match skipSpace rest with
                | ']' :: rest => some (.arr [], rest)
                | rest => (readItems fuel depth rest).map fun r => (.arr r.1, r.2)
          else if c = '\x7b' then
            match depth with
            | 0 => none
            | depth + 1 =>
                match skipSpace rest with
                | '\x7d' :: rest => some (.obj [], rest)
                | rest => (readMembers fuel depth rest).map fun r => (ofPairs r.1, r.2)
          else if c = '-' ∨ isDigit c then readNumber (c :: rest)
          else readWord (c :: rest)

def readItems : Nat → Nat → List Char → Option (List Json × List Char)
  | 0, _, _ => none
  | fuel + 1, depth, cs =>
      match readValue fuel depth cs with
      | none => none
      | some (v, rest) =>
          match skipSpace rest with
          | ']' :: rest => some ([v], rest)
          | ',' :: rest => (readItems fuel depth rest).map fun r => (v :: r.1, r.2)
          | _ => none

def readMembers : Nat → Nat → List Char → Option (List (String × Json) × List Char)
  | 0, _, _ => none
  | fuel + 1, depth, cs =>
      match skipSpace cs with
      | '"' :: rest =>
          match readString .plain rest with
          | none => none
          | some (key, rest) =>
              match skipSpace rest with
              | ':' :: rest =>
                  match readValue fuel depth rest with
                  | none => none
                  | some (v, rest) =>
                      match skipSpace rest with
                      | '\x7d' :: rest => some ([(String.ofList key, v)], rest)
                      | ',' :: rest =>
                          (readMembers fuel depth rest).map fun r =>
                            ((String.ofList key, v) :: r.1, r.2)
                      | _ => none
              | _ => none
      | _ => none

end

/-- Reads a text that is one value.  Every second call at least consumes a
character, so the bound on the number of calls is never met. -/
def parse (cs : List Char) : Option Json :=
  match readValue (2 * cs.length + 2) maxDepth cs with
  | some (v, rest) => if (skipSpace rest).isEmpty then some v else none
  | none => none

def ofText? (s : String) : Option Json :=
  parse s.toList

end CodeShelf.Json
