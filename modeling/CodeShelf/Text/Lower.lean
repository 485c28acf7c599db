import CodeShelf.Text.Case.Table

/-!
# Lower case

The full lower-case mapping of a text.  Every character is mapped by itself,
except the capital sigma: it becomes the final sigma at the end of a word and
the ordinary one elsewhere.  The dotted capital I is the one character whose
lower-case form has two characters.
-/

namespace CodeShelf.Text

open Case

def capitalSigma : Char := Char.ofNat 0x3A3

def smallSigma : Char := Char.ofNat 0x3C3

def finalSigma : Char := Char.ofNat 0x3C2

def lowerChar (c : Char) : List Char :=
  -- The capital I with a dot is the one letter whose small form has two characters.
  if c.toNat = 0x130 then [Char.ofNat 0x69, Char.ofNat 0x307]
  else
    match shifted? lowerShifts c.toNat with
    | some code => [Char.ofNat code]
    | none => [c]

def meetsCased (cs : List Char) : Bool :=
  match cs.dropWhile fun c => inRanges ignorableRanges c.toNat with
  | [] => false
  | c :: _ => inRanges casedRanges c.toNat

/-- Whether a sigma ends a word: a cased letter stands before it, and none after
it, case-ignorable characters not counted.  `before` is read backwards. -/
def endsWord (before after : List Char) : Bool :=
  meetsCased before && !meetsCased after

def lowerBetween (before : List Char) (c : Char) (after : List Char) : List Char :=
  if c = capitalSigma then
    [if endsWord before after then finalSigma else smallSigma]
  else lowerChar c

def lowerAfter (before : List Char) : List Char → List Char
  | [] => []
  | c :: rest => lowerBetween before c rest ++ lowerAfter (c :: before) rest

def lower (cs : List Char) : List Char :=
  lowerAfter [] cs

end CodeShelf.Text
