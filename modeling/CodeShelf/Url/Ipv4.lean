import CodeShelf.Text.Hex
import CodeShelf.Url.Error

/-!
# IPv4 addresses in hosts

A host whose last label is a number is an IPv4 address: up to four parts, each
decimal, octal after a zero or hexadecimal after `0x`.  The last part fills all the
bytes that the parts before it leave.
-/

namespace CodeShelf.Url

open Text

def splitLabels (cs : List Char) : List (List Char) :=
  cs.splitOn '.'

def digitsIn? (base : Nat) (cs : List Char) : Option Nat :=
  cs.foldlM (fun acc c => do
    let d ← hexValue? c
    if d < base then some (acc * base + d) else none) 0

def ipv4Number? : List Char → Option Nat
  | [] => none
  | '0' :: 'x' :: digits => digitsIn? 16 digits
  | '0' :: 'X' :: digits => digitsIn? 16 digits
  | '0' :: d :: digits => digitsIn? 8 (d :: digits)
  | digits => digitsIn? 10 digits

def withoutFinalEmpty (labels : List (List Char)) : List (List Char) :=
  if labels.getLast? = some [] then labels.dropLast else labels

def endsInNumber (host : List Char) : Bool :=
  match (withoutFinalEmpty (splitLabels host)).getLast? with
  | none => false
  | some label =>
      (!label.isEmpty && label.all fun c => '0' ≤ c && c ≤ '9') || (ipv4Number? label).isSome

def ipv4OfParts (parts : List Nat) (last : Nat) : Except UrlError Nat :=
  if 3 < parts.length ∨ Nat.pow 256 (4 - parts.length) ≤ last then .error .invalidIpv4
  else if parts.any (255 < ·) then .error .invalidIpv4
  else .ok (parts.zipIdx.foldl (fun acc p => acc + p.1 * Nat.pow 256 (3 - p.2)) last)

def readIpv4 (host : List Char) : Except UrlError Nat :=
  match (withoutFinalEmpty (splitLabels host)).mapM ipv4Number? with
  | none => .error .invalidIpv4
  | some numbers =>
      match numbers.getLast? with
      | none => .error .invalidIpv4
      | some last => ipv4OfParts numbers.dropLast last

end CodeShelf.Url
