import CodeShelf.Json.Basic
import CodeShelf.Number.Digits
import CodeShelf.Number.Shortest
import CodeShelf.Text.Hex

/-!
# Writing JSON

Two layouts of a value: `compact`, without any space, and `pretty`, with one member
or item to a line and two spaces to a level.  Both write members in their order,
escape in strings only the quote, the backslash and the controls below U+0020, and
write a floating-point number with the fewest digits that read back.
-/

namespace CodeShelf

open Number

namespace JsonNumber

def leastPlainOrder : Int := -5

def firstExponentOrder : Int := 16

def plainText (digits : List Char) (order : Int) : List Char :=
  if order < 0 then
    '0' :: '.' :: List.replicate (-order - 1).toNat '0' ++ digits
  else
    let whole := order.toNat + 1
    let fraction := digits.drop whole
    digits.take whole ++ List.replicate (whole - digits.length) '0' ++
      '.' :: (if fraction.isEmpty then ['0'] else fraction)

def exponentText (digits : List Char) (order : Int) : List Char :=
  let fraction := digits.drop 1
  digits.take 1 ++ (if fraction.isEmpty then [] else '.' :: fraction) ++
    'e' :: (if order < 0 then '-' else '+') :: natText order.natAbs

def decimalText (d : Decimal) : List Char :=
  if leastPlainOrder ≤ d.order ∧ d.order < firstExponentOrder
  then plainText (natText d.digits) d.order
  else exponentText (natText d.digits) d.order

/-- A floating-point number; it always has a point or an exponent, and zero keeps
its sign. -/
def floatText (x : Binary64) : List Char :=
  (if x.negative then ['-'] else []) ++
    if x.magnitude.mantissa = 0 then ['0', '.', '0']
    else decimalText (Shortest.ofMagnitude x.magnitude)

def text : JsonNumber → List Char
  | int n => intText n
  | float x => floatText x

end JsonNumber

namespace Json

open Text

def quotedChar (c : Char) : List Char :=
  let n := c.toNat
  if n = 0x22 then ['\\', '"']
  else if n = 0x5C then ['\\', '\\']
  else if n = 0x08 then ['\\', 'b']
  else if n = 0x09 then ['\\', 't']
  else if n = 0x0A then ['\\', 'n']
  else if n = 0x0C then ['\\', 'f']
  else if n = 0x0D then ['\\', 'r']
  else if n < 0x20 then
    ['\\', 'u', '0', '0', lowerHexDigit (n / 16), lowerHexDigit (n % 16)]
  else [c]

def quoted (s : String) : List Char :=
  '"' :: s.toList.flatMap quotedChar ++ ['"']

def boolText (b : Bool) : List Char :=
  if b then ['t', 'r', 'u', 'e'] else ['f', 'a', 'l', 's', 'e']

def nullText : List Char := ['n', 'u', 'l', 'l']

mutual

def compact : Json → List Char
  | null => nullText
  | bool b => boolText b
  | num n => n.text
  | str s => quoted s
  | arr [] => ['[', ']']
  | arr (v :: rest) => '[' :: compact v ++ compactItems rest
  | obj [] => ['\x7b', '\x7d']
  | obj ((k, v) :: rest) => '\x7b' :: quoted k ++ ':' :: compact v ++ compactMembers rest

def compactItems : List Json → List Char
  | [] => [']']
  | v :: rest => ',' :: compact v ++ compactItems rest

def compactMembers : List (String × Json) → List Char
  | [] => ['\x7d']
  | (k, v) :: rest => ',' :: quoted k ++ ':' :: compact v ++ compactMembers rest

end

def newLine (level : Nat) : List Char :=
  '\n' :: List.replicate (2 * level) ' '

mutual

def prettyAt (level : Nat) : Json → List Char
  | null => nullText
  | bool b => boolText b
  | num n => n.text
  | str s => quoted s
  | arr [] => ['[', ']']
  | arr (v :: rest) =>
      '[' :: newLine (level + 1) ++ prettyAt (level + 1) v ++ prettyItems level rest
  | obj [] => ['\x7b', '\x7d']
  | obj ((k, v) :: rest) =>
      '\x7b' :: newLine (level + 1) ++ quoted k ++ ':' :: ' ' :: prettyAt (level + 1) v ++
        prettyMembers level rest

def prettyItems (level : Nat) : List Json → List Char
  | [] => newLine level ++ [']']
  | v :: rest =>
      ',' :: newLine (level + 1) ++ prettyAt (level + 1) v ++ prettyItems level rest

def prettyMembers (level : Nat) : List (String × Json) → List Char
  | [] => newLine level ++ ['\x7d']
  | (k, v) :: rest =>
      ',' :: newLine (level + 1) ++ quoted k ++ ':' :: ' ' :: prettyAt (level + 1) v ++
        prettyMembers level rest

end

def pretty (v : Json) : List Char :=
  prettyAt 0 v

def toText (v : Json) : String :=
  String.ofList v.compact

def toPrettyText (v : Json) : String :=
  String.ofList v.pretty

end Json

end CodeShelf
