import CodeShelf.Text.Joining
import CodeShelf.Url.DomainChar
import CodeShelf.Url.Punycode

/-!
# Labels of domain names

The parts of a domain name between its dots.  A label that is not ASCII is spelled in
Punycode behind a mark of its own; a written label with that mark has to be the spelling
of a proper label.
-/

namespace CodeShelf.Url

open Text

def spelledMark : List Char := "xn--".toList

def maxLabelLength : Nat := 1000

def maxSpellingLength : Nat := 2000

def isAsciiText (cs : List Char) : Bool :=
  cs.all fun c => c.toNat < 0x80

def nonJoiner : Char := Char.ofNat 0x200C

def joiner : Char := Char.ofNat 0x200D

def viramaClass : Nat := 9

/-- Whether a character may stand between its neighbours; `before` is read backwards.  A
joiner needs a sign before it that silences a vowel; a non-joiner may also part letters that
would join. -/
def fitsBetween (before : List Char) (c : Char) (after : List Char) : Bool :=
  if c = joiner ∨ c = nonJoiner then
    before.head?.any (Normal.combiningClass · == viramaClass) ||
      (c == nonJoiner && joinsAcross before after)
  else true

def fitsAfter (before : List Char) : List Char → Bool
  | [] => true
  | c :: rest => fitsBetween before c rest && fitsAfter (c :: before) rest

/-- Whether a label of composed text is proper: it does not start with a mark, its joiners
are where they may be, and it is not too long to be spelled. -/
def isProperLabel (label : List Char) : Bool :=
  !label.head?.any isMark && fitsAfter [] label &&
    (isAsciiText label || label.length ≤ maxLabelLength)

structure Label where
  text : List Char
  ascii : List Char
  deriving DecidableEq, Repr

def readSpelling? (spelling : List Char) : Option (List Char) :=
  if isAsciiText spelling && spelling.length ≤ maxSpellingLength then
    match Punycode.decode? spelling with
    | some text =>
        if !isAsciiText text && isDomainText text && isProperLabel text then some text else none
    | none => none
  else none

def readLabel? (label : List Char) : Option Label :=
  if spelledMark.isPrefixOf label then
    (readSpelling? (label.drop spelledMark.length)).map fun text => ⟨text, label⟩
  else if isProperLabel label then
    some ⟨label, if isAsciiText label then label else spelledMark ++ Punycode.encode label⟩
  else none

end CodeShelf.Url
