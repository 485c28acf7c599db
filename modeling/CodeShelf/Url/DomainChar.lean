import CodeShelf.Text.Lower
import CodeShelf.Text.Normal
import CodeShelf.Url.DomainChar.Table

/-!
# Characters of domain names

A character of a written domain name is refused, vanishes, or stands for others: letters
for their lower-case forms, wide and ornamental forms for plain ones.  The text that comes
of it is put into its composed form, and only then it shows whether it contains one of the
ASCII characters that may not stand in a domain name.
-/

namespace CodeShelf.Url

open Text DomainChar

def isForbiddenInDomain (c : Char) : Bool :=
  c.toNat ≤ 0x20 || c.toNat == 0x7F || "%#/:<>?@[\\]^|".toList.contains c

def readDomainChar? (c : Char) : Option (List Char) :=
  let code := c.toNat
  if code < 0x80 then some [c.toLower]
  else if inRanges refusedRanges code then none
  else if inRanges ignoredRanges code then some []
  else
    match shifted? shifts code with
    | some other => some [Char.ofNat other]
    | none =>
        match rowText? rows code with
        | some text => some (text.map Char.ofNat)
        | none => some (lowerChar c)

def readDomainText? (cs : List Char) : Option (List Char) :=
  match cs.mapM readDomainChar? with
  | none => none
  | some texts =>
      let text := normalize texts.flatten
      if text.any isForbiddenInDomain then none else some text

def isDomainText (cs : List Char) : Bool :=
  readDomainText? cs == some cs

end CodeShelf.Url
