import CodeShelf.Text.Utf8

/-!
# Reading source files

The working directory as a list of files, and the reading of one of them as text.
-/

namespace CodeShelf.Cli

open Text

inductive FileError where
  | noSuchFile
  | isDirectory
  | notDirectory
  | nameTooLong
  | notText
  | other (description : String)
  deriving DecidableEq, Repr

def FileError.message : FileError → String
  | noSuchFile => "No such file or directory (os error 2)"
  | isDirectory => "Is a directory (os error 21)"
  | notDirectory => "Not a directory (os error 20)"
  | nameTooLong => "File name too long (os error 36)"
  | notText => "stream did not contain valid UTF-8"
  | other description => description

abbrev Directory := List (String × List UInt8)

def textOf (bytes : List UInt8) : Except FileError String :=
  match Utf8.decode? bytes with
  | some cs => .ok (String.ofList cs)
  | none => .error .notText

def maxNameLength : Nat := 255

def maxPathLength : Nat := 4095

/-- Where a walk along a path stands: in the working directory, in a directory outside it,
or at a file. -/
inductive Place where
  | inside
  | outside
  | file (bytes : List UInt8)
  deriving DecidableEq, Repr

/-- One step of a walk.  Nothing lies beyond a file; an empty part and a single dot stay in
the directory, and two dots leave it.  Outside the working directory no file is known. -/
def Directory.step (d : Directory) (place : Place) (part : List Char) : Except FileError Place :=
  match place with
  | .file _ => .error .notDirectory
  | .inside | .outside =>
      if part = [] ∨ part = ['.'] then .ok place
      else if part = ['.', '.'] then .ok .outside
      else if maxNameLength < (String.ofList part).utf8ByteSize then .error .nameTooLong
      else if place = .outside then .error .noSuchFile
      else
        match d.lookup (String.ofList part) with
        | some bytes => .ok (.file bytes)
        | none => .error .noSuchFile

def Directory.walk (d : Directory) (path : String) : Except FileError Place :=
  let start : Place := if path.toList.head? = some '/' then .outside else .inside
  (path.toList.splitOn '/').foldlM d.step start

def Directory.read (d : Directory) (path : String) : Except FileError String :=
  if path.isEmpty then .error .noSuchFile
  else if maxPathLength < path.utf8ByteSize then .error .nameTooLong
  else
    match d.walk path with
    | .error e => .error e
    | .ok (.file bytes) => textOf bytes
    | .ok _ => .error .isDirectory

end CodeShelf.Cli
