import CodeShelf.Number.Digits
import CodeShelf.Url.Domain
import CodeShelf.Url.Ipv6

/-!
# Hosts

A host is a domain name, an IPv4 address or an IPv6 address in brackets.
-/

namespace CodeShelf.Url

inductive Host where
  | domain (name : List Char)
  | ipv4 (address : Nat)
  | ipv6 (pieces : List Nat)
  deriving DecidableEq, Repr

def readHost (written : List Char) : Except UrlError Host :=
  match written with
  | [] => .error .emptyHost
  | '[' :: rest =>
      if rest.getLast? = some ']' then (readIpv6 rest.dropLast).map .ipv6
      else .error .invalidIpv6
  | written =>
      match domainToAscii written with
      | .error e => .error e
      | .ok [] => .error .emptyHost
      | .ok name => if endsInNumber name then (readIpv4 name).map .ipv4 else .ok (.domain name)

def ipv4Text (address : Nat) : List Char :=
  ['.'].intercalate
    ([address / 16777216 % 256, address / 65536 % 256, address / 256 % 256, address % 256].map
      natText)

def Host.text : Host → List Char
  | domain name => name
  | ipv4 address => ipv4Text address
  | ipv6 pieces => '[' :: ipv6Text pieces ++ [']']

def isForbiddenInHost (c : Char) : Bool :=
  c.toNat == 0 || "\t\n\r #/:<>?@[\\]^|".toList.contains c

def checkOpaqueHost (written : List Char) : Except UrlError Unit :=
  match written with
  | '[' :: rest =>
      if rest.getLast? = some ']' then (readIpv6 rest.dropLast).map fun _ => ()
      else .error .invalidIpv6
  | written => if written.any isForbiddenInHost then .error .invalidHostCharacter else .ok ()

end CodeShelf.Url
