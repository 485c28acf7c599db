import CodeShelf.Text.Direction.Table
import CodeShelf.Text.Mark

/-!
# Directions of characters

The direction in which a character is written, as far as mixed text depends on it, and
the rule for words that stay readable beside words of the other direction.
-/

namespace CodeShelf.Text

inductive Direction where
  | leftToRight
  | rightToLeft
  | europeanNumber
  | arabicNumber
  | neutral
  | mark
  | blank
  deriving DecidableEq, Repr

namespace Direction

def ofChar (c : Char) : Direction :=
  let code := c.toNat
  if inRanges rightRanges code then rightToLeft
  else if inRanges arabicRanges code then arabicNumber
  else if inRanges europeanRanges code then europeanNumber
  else if inRanges neutralRanges code then neutral
  else if inRanges blankRanges code then blank
  else if isNonspacingMark c && !directedMarks.contains code then mark
  else leftToRight

def allowedInRight : Direction → Bool
  | leftToRight | blank => false
  | _ => true

def allowedInLeft : Direction → Bool
  | leftToRight | europeanNumber | neutral | mark => true
  | _ => false

def endsRight : Direction → Bool
  | rightToLeft | europeanNumber | arabicNumber => true
  | _ => false

def endsLeft : Direction → Bool
  | leftToRight | europeanNumber => true
  | _ => false

def lastLetter? (word : List Direction) : Option Direction :=
  word.reverse.find? (· != mark)

/-- Whether a word can stand in a text of two directions: it starts with a letter, all of
it goes the way of that letter, it ends in a letter or a digit, and a word from right to
left has digits of one kind only.  An empty word can stand anywhere. -/
def consistent (word : List Direction) : Bool :=
  match word.head? with
  | none => true
  | some leftToRight => word.all allowedInLeft && (lastLetter? word).any endsLeft
  | some rightToLeft =>
      word.all allowedInRight && (lastLetter? word).any endsRight &&
        !(word.contains europeanNumber && word.contains arabicNumber)
  | some _ => false

end Direction

def firstRight : Nat := 0x590

open Direction in
/-- Whether a character makes its text one of two directions: letters and numbers that are
written from right to left do. -/
def goesRight (c : Char) : Bool :=
  firstRight ≤ c.toNat &&
    (inRanges rightRanges c.toNat || inRanges arabicRanges c.toNat)

end CodeShelf.Text
