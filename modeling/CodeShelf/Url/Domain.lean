import CodeShelf.Text.Direction
import CodeShelf.Text.Percent
import CodeShelf.Text.Utf8
import CodeShelf.Url.Error
import CodeShelf.Url.Label

/-!
# Domain names

A domain name in its ASCII form.  The escapes of the written name are undone, its
characters are mapped, and its labels are read one by one.  If one label has letters that
are written from right to left, every label has to be readable beside it.
-/

namespace CodeShelf.Url

open Text

def directionsAgree (labels : List Label) : Bool :=
  !labels.any (·.text.any goesRight) ||
    labels.all fun label => Direction.consistent (label.text.map Direction.ofChar)

def readLabels? (written : List Char) : Option (List Label) := do
  let cs ← Utf8.decode? (Percent.decode written)
  let text ← readDomainText? cs
  let labels ← (text.splitOn '.').mapM readLabel?
  if directionsAgree labels then some labels else none

def domainToAscii (written : List Char) : Except UrlError (List Char) :=
  match readLabels? written with
  | none => .error .invalidDomainName
  | some labels => .ok (['.'].intercalate (labels.map Label.ascii))

end CodeShelf.Url
