import CodeShelf.Error
import CodeShelf.Json.Printer
import CodeShelf.Text.Blank
import CodeShelf.Text.Lower
import CodeShelf.Text.Occurs

/-!
# Code samples

A sample is a named piece of source text that the service stores under an id of its
choice.  Names need not be unique.  A draft is a sample that has no id yet.  The
search by name ignores case and looks for the term anywhere in the name.
-/

namespace CodeShelf

open Text

/-- The id of a sample.  The service may write ids as numbers or as strings; both
have the same text. -/
structure SampleId where
  text : String
  deriving DecidableEq, Repr

def SampleId.ofNat (n : Nat) : SampleId :=
  ⟨String.ofList (natText n)⟩

structure Sample where
  id : SampleId
  name : String
  code : String
  deriving DecidableEq, Repr

structure Draft where
  name : String
  code : String
  deriving DecidableEq, Repr

def isBlankText (s : String) : Bool :=
  (trim s.toList).isEmpty

/-- A draft whose name and code are both more than blanks.  The texts are kept as
given, and the name is checked first. -/
def Draft.check (name code : String) : Except DataError Draft :=
  if isBlankText name then .error (.emptyField .name)
  else if isBlankText code then .error (.emptyField .code)
  else .ok ⟨name, code⟩

namespace Sample

/-- Whether a name contains the term, case aside.  The empty term is in every name. -/
def nameMatches (name term : String) : Bool :=
  term.toList.isEmpty || occursIn (lower term.toList) (lower name.toList)

def search (term : String) (samples : List Sample) : List Sample :=
  samples.filter fun s => nameMatches s.name term

@[simp] theorem mem_search {term : String} {samples : List Sample} {s : Sample} :
    s ∈ search term samples ↔ s ∈ samples ∧ nameMatches s.name term = true := by
  simp [search]

def toJson (s : Sample) : Json :=
  .obj [("id", .str s.id.text), ("name", .str s.name), ("code", .str s.code)]

end Sample

def Draft.toJson (d : Draft) : Json :=
  .obj [("name", .str d.name), ("code", .str d.code)]

end CodeShelf
