import CodeShelf.Text.Mark.Table

/-!
# Combining marks

A mark belongs to the letter before it, so that no word starts with one.
-/

namespace CodeShelf.Text

open Mark

def firstMark : Nat := 0x300

def isNonspacingMark (c : Char) : Bool :=
  firstMark ≤ c.toNat && inRanges nonspacingRanges c.toNat

def isMark (c : Char) : Bool :=
  firstMark ≤ c.toNat &&
    (inRanges nonspacingRanges c.toNat || inRanges spacingRanges c.toNat)

end CodeShelf.Text
