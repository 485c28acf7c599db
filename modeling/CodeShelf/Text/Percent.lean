import CodeShelf.Text.Hex
import CodeShelf.Text.Utf8

/-!
# Percent-encoding

A character that may not stand for itself is written as its UTF-8 bytes, each as a
percent sign and two hexadecimal digits in upper case.  Which characters stand for
themselves is a parameter.  The form encoding of names and values is the variant
that writes a space as a plus sign.
-/

namespace CodeShelf.Text.Percent

def escape (b : UInt8) : List Char :=
  ['%', upperHexDigit (b.toNat / 16), upperHexDigit (b.toNat % 16)]

def escapeChar (c : Char) : List Char :=
  (String.utf8EncodeChar c).flatMap escape

def encode (keep : Char → Bool) (cs : List Char) : List Char :=
  cs.flatMap fun c => if keep c then [c] else escapeChar c

/-- The bytes of a text whose escapes are undone; a percent sign that two digits do
not follow stands for itself. -/
def decode : List Char → List UInt8
  | [] => []
  | '%' :: a :: b :: rest =>
      match hexValue? a, hexValue? b with
      | some x, some y => UInt8.ofNat (x * 16 + y) :: decode rest
      | _, _ => 0x25 :: decode (a :: b :: rest)
  | c :: rest => String.utf8EncodeChar c ++ decode rest

def isAlphanumeric (c : Char) : Bool :=
  let n := c.toNat
  (0x30 ≤ n && n ≤ 0x39) || (0x41 ≤ n && n ≤ 0x5A) || (0x61 ≤ n && n ≤ 0x7A)

def isUnreserved (c : Char) : Bool :=
  isAlphanumeric c || c == '-' || c == '_' || c == '.' || c == '~'

def segment (cs : List Char) : List Char :=
  encode isUnreserved cs

def isFormLiteral (c : Char) : Bool :=
  isAlphanumeric c || c == '*' || c == '-' || c == '.' || c == '_'

def form (cs : List Char) : List Char :=
  cs.flatMap fun c =>
    if c = ' ' then ['+'] else if isFormLiteral c then [c] else escapeChar c

def formPair (pair : String × String) : List Char :=
  form pair.1.toList ++ '=' :: form pair.2.toList

end CodeShelf.Text.Percent
