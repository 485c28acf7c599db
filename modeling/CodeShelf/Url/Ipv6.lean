import CodeShelf.Text.Hex
import CodeShelf.Url.Ipv4

/-!
# IPv6 addresses in hosts

Eight pieces of sixteen bits in hexadecimal, with colons between them.  Two colons
stand for a gap of one or more zero pieces, once; the last two pieces may be written
as an IPv4 address in plain decimal.
-/

namespace CodeShelf.Url

open Text

inductive Ipv6Group where
  | piece (value : Nat)
  | gap
  deriving DecidableEq, Repr

def decimalByte? (cs : List Char) : Option Nat := do
  let n ← digitsIn? 10 cs
  if cs.isEmpty ∨ (cs.head? = some '0' ∧ cs.length ≠ 1) ∨ 255 < n then none else some n

def ipv4Tail? (cs : List Char) : Option (List Ipv6Group) :=
  match (splitLabels cs).mapM decimalByte? with
  | some [a, b, c, d] => some [.piece (a * 256 + b), .piece (c * 256 + d)]
  | _ => none

/-- Reads the groups of an address that may have `room` more of them.  A colon where
a piece is due is the second of two and makes a gap. -/
def readGroups : Nat → List Char → Option (List Ipv6Group)
  | _, [] => some []
  | 0, _ :: _ => none
  | room + 1, c :: cs =>
      if c = ':' then (readGroups room cs).map (.gap :: ·)
      else
        let digits := ((c :: cs).takeWhile fun d => (hexValue? d).isSome).take 4
        let value := (digitsIn? 16 digits).getD 0
        match (c :: cs).drop digits.length with
        | [] => some [.piece value]
        | ':' :: [] => none
        | ':' :: rest => (readGroups room rest).map (.piece value :: ·)
        | '.' :: _ => if digits.isEmpty ∨ room = 0 then none else ipv4Tail? (c :: cs)
        | _ => none

def ipv6Groups? : List Char → Option (List Ipv6Group)
  | ':' :: ':' :: rest => (readGroups 7 rest).map (.gap :: ·)
  | ':' :: _ => none
  | cs => readGroups 8 cs

def expandGroups (fill : Nat) (groups : List Ipv6Group) : List Nat :=
  groups.flatMap fun
    | .piece value => [value]
    | .gap => List.replicate fill 0

def readIpv6 (cs : List Char) : Except UrlError (List Nat) :=
  match ipv6Groups? cs with
  | none => .error .invalidIpv6
  | some groups =>
      match groups.count .gap with
      | 0 => if groups.length = 8 then .ok (expandGroups 0 groups) else .error .invalidIpv6
      | 1 => .ok (expandGroups (9 - groups.length) groups)
      | _ => .error .invalidIpv6

def longestZeroRun (pieces : List Nat) : Nat × Nat :=
  (List.range pieces.length).foldl
    (fun best start =>
      let run := ((pieces.drop start).takeWhile (· == 0)).length
      if best.2 < run then (start, run) else best)
    (0, 0)

def pieceText (n : Nat) : List Char :=
  Nat.toDigits 16 n

def piecesText (pieces : List Nat) : List Char :=
  [':'].intercalate (pieces.map pieceText)

/-- The text of an address: the first longest run of two or more zero pieces is
written as a gap. -/
def ipv6Text (pieces : List Nat) : List Char :=
  let (start, run) := longestZeroRun pieces
  if run < 2 then piecesText pieces
  else
    piecesText (pieces.take start) ++ ':' :: ':' :: piecesText (pieces.drop (start + run))

end CodeShelf.Url
