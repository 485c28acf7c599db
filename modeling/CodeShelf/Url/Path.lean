import CodeShelf.Text.Percent

/-!
# Paths, queries and fragments

The path of a URL of the web is a list of segments.  Slashes and backslashes divide
it, a segment of one dot stands for nothing and one of two dots takes the segment
before it away; a dot may be written as an escape.  Characters that may not stand in
a part of a URL are escaped, and escapes that are there already stay.
-/

namespace CodeShelf.Url

open Text

def isVisible (c : Char) : Bool :=
  0x21 ≤ c.toNat && c.toNat ≤ 0x7E

def isPathLiteral (c : Char) : Bool :=
  isVisible c && !("\"#<>?`\x7b\x7d".toList.contains c)

def isQueryLiteral (c : Char) : Bool :=
  isVisible c && !("\"#<>\'".toList.contains c)

def isFragmentLiteral (c : Char) : Bool :=
  isVisible c && !("\"<>`".toList.contains c)

def isSlash (c : Char) : Bool :=
  c == '/' || c == '\\'

def dotCount? : List Char → Option Nat
  | [] => some 0
  | '.' :: rest => (dotCount? rest).map (· + 1)
  | '%' :: '2' :: 'e' :: rest => (dotCount? rest).map (· + 1)
  | '%' :: '2' :: 'E' :: rest => (dotCount? rest).map (· + 1)
  | _ => none

def isSingleDot (segment : List Char) : Bool :=
  dotCount? segment == some 1

def isDoubleDot (segment : List Char) : Bool :=
  dotCount? segment == some 2

/-- A letter and a colon or bar: such a segment is never taken away. -/
def isDriveLetter : List Char → Bool
  | [c, d] => c.isAlpha && (d == ':' || d == '|')
  | _ => false

def shorten : List (List Char) → List (List Char)
  | [] => []
  | s :: rest => if isDriveLetter s then s :: rest else rest

/-- Adds the written segments to the resolved ones, which stand last first.  Dots at
the end leave an empty segment. -/
def resolveSegments (resolved : List (List Char)) : List (List Char) → List (List Char)
  | [] => resolved
  | s :: rest =>
      if isDoubleDot s then
        resolveSegments
          (if rest.isEmpty then [] :: shorten resolved else shorten resolved) rest
      else if isSingleDot s then
        resolveSegments (if rest.isEmpty then [] :: resolved else resolved) rest
      else resolveSegments (Percent.encode isPathLiteral s :: resolved) rest

def splitPath (written : List Char) : List (List Char) :=
  match written with
  | [] => [[]]
  | c :: rest => (if isSlash c then rest else c :: rest).splitOnP isSlash

def readPath (written : List Char) : List (List Char) :=
  (resolveSegments [] (splitPath written)).reverse

def pathText (segments : List (List Char)) : List Char :=
  segments.flatMap ('/' :: ·)

end CodeShelf.Url
