import CodeShelf.Text.Joining.Table
import CodeShelf.Text.Mark

/-!
# Joining of letters

Which letters of cursive scripts join the letter before or after them.  Marks and
invisible controls are looked through.
-/

namespace CodeShelf.Text

open Joining

def joinsNext (c : Char) : Bool :=
  inRanges dualRanges c.toNat || inRanges leftRanges c.toNat

def joinsPrevious (c : Char) : Bool :=
  inRanges dualRanges c.toNat || inRanges rightRanges c.toNat

def isTransparent (c : Char) : Bool :=
  isNonspacingMark c || inRanges formatRanges c.toNat

def firstLetter (p : Char → Bool) (cs : List Char) : Bool :=
  (cs.dropWhile isTransparent).head?.any p

/-- Whether the letters around a place join across it; `before` is read backwards. -/
def joinsAcross (before after : List Char) : Bool :=
  firstLetter joinsNext before && firstLetter joinsPrevious after

end CodeShelf.Text
