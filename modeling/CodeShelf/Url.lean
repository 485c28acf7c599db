import CodeShelf.Text.Blank
import CodeShelf.Url.Host
import CodeShelf.Url.Path

/-!
# URLs

Reads absolute URLs the way browsers do.  The URLs of the web (`http`, `https`, `ws`,
`wss`, `ftp`) are read into their parts; of every other URL only the scheme is kept,
once its host and port are found in order.  User names and passwords are read over.

Blanks and controls around the text do not count, and tabs and line ends inside it
do not count either.
-/

namespace CodeShelf

open Text

namespace Url

structure Web where
  scheme : String
  host : Host
  port : Option Nat
  path : List (List Char)
  query : Option (List Char)
  fragment : Option (List Char)
  deriving DecidableEq, Repr

end Url

inductive Url where
  | web (parts : Url.Web)
  | other (scheme : String)
  deriving DecidableEq, Repr

namespace Url

def scheme : Url → String
  | web parts => parts.scheme
  | other scheme => scheme

def defaultPort? (scheme : String) : Option Nat :=
  if scheme = "http" ∨ scheme = "ws" then some 80
  else if scheme = "https" ∨ scheme = "wss" then some 443
  else if scheme = "ftp" then some 21
  else none

def clean (cs : List Char) : List Char :=
  let outside (c : Char) : Bool := c.toNat ≤ 0x20
  (dropEndWhile outside (cs.dropWhile outside)).filter fun c =>
    !(c == '\t' || c == '\n' || c == '\r')

def isSchemeChar (c : Char) : Bool :=
  Percent.isAlphanumeric c || c == '+' || c == '-' || c == '.'

def readScheme? (cs : List Char) : Option (String × List Char) :=
  match cs, cs.dropWhile isSchemeChar with
  | c :: _, ':' :: rest =>
      if c.isAlpha then some (String.ofList ((cs.takeWhile isSchemeChar).map Char.toLower), rest)
      else none
  | _, _ => none

structure Authority where
  credentials : List Char
  host : List Char
  port : Option (List Char)
  deriving DecidableEq, Repr

def takeHost (inBrackets : Bool) : List Char → List Char
  | [] => []
  | c :: rest =>
      if c = ':' ∧ inBrackets = false then []
      else if c = '[' then c :: takeHost true rest
      else if c = ']' then c :: takeHost false rest
      else c :: takeHost inBrackets rest

def splitAuthority (cs : List Char) : Authority :=
  -- Credentials end at the last at sign.
  let tail := (cs.reverse.takeWhile (· != '@')).reverse
  let host := takeHost false tail
  { credentials := (cs.take (cs.length - tail.length)).dropLast
    host := host
    port := (tail.drop host.length).tail? }

/-- Reads a port; an empty one is none, and so is the scheme's own. -/
def readPort (scheme : String) : Option (List Char) → Except UrlError (Option Nat)
  | none => .ok none
  | some [] => .ok none
  | some digits =>
      match if digits.all Char.isDigit then digitsIn? 10 digits else none with
      | none => .error .invalidPort
      | some n =>
          if 65535 < n then .error .invalidPort
          else .ok (if defaultPort? scheme = some n then none else some n)

def splitTail (cs : List Char) : List Char × Option (List Char) × Option (List Char) :=
  let beforeFragment := cs.takeWhile (· != '#')
  ( beforeFragment.takeWhile (· != '?'),
    (beforeFragment.dropWhile (· != '?')).tail?,
    (cs.dropWhile (· != '#')).tail? )

def endsWebAuthority (c : Char) : Bool :=
  isSlash c || c == '?' || c == '#'

def readWeb (scheme : String) (cs : List Char) : Except UrlError Web := do
  -- Any number of slashes may stand here, even none.
  let cs := cs.dropWhile isSlash
  let authority := splitAuthority (cs.takeWhile fun c => !endsWebAuthority c)
  let host ← readHost authority.host
  let port ← readPort scheme authority.port
  let (path, query, fragment) := splitTail (cs.dropWhile fun c => !endsWebAuthority c)
  return {
    scheme := scheme
    host := host
    port := port
    path := readPath path
    query := query.map (Percent.encode isQueryLiteral)
    fragment := fragment.map (Percent.encode isFragmentLiteral) }

/-- Checks a `file` URL after its colon.  It has a host only after two slashes, and a
drive letter is none. -/
def checkFile : List Char → Except UrlError Unit
  | c :: d :: rest =>
      if isSlash c && isSlash d then
        let host := rest.takeWhile fun c => !endsWebAuthority c
        if host.isEmpty || isDriveLetter host then .ok ()
        else (readHost host).map fun _ => ()
      else .ok ()
  | _ => .ok ()

def hasCredentials (credentials : List Char) : Bool :=
  !(credentials.isEmpty || credentials == [':'])

/-- Checks a URL outside the web after its colon.  It has a host only after two
slashes.  The host may be missing if nothing else of the authority is there, not even
an at sign before a path, a query or a fragment. -/
def checkOther (scheme : String) : List Char → Except UrlError Unit
  | '/' :: '/' :: rest => do
      let written := rest.takeWhile fun c => !(c == '/' || c == '?' || c == '#')
      let authority := splitAuthority written
      if written = ['@'] ∧ written.length < rest.length then
        throw .emptyHost
      checkOpaqueHost authority.host
      if authority.host.isEmpty ∧
          (authority.port.isSome ∨ hasCredentials authority.credentials) then
        throw .emptyHost
      let _ ← readPort scheme (authority.port.map fun p => p.takeWhile (· != '\\'))
  | _ => .ok ()

def parse (cs : List Char) : Except UrlError Url :=
  match readScheme? (clean cs) with
  | none => .error .relativeWithoutBase
  | some (scheme, rest) =>
      if (defaultPort? scheme).isSome then (readWeb scheme rest).map .web
      else if scheme = "file" then (checkFile rest).map fun _ => .other scheme
      else (checkOther scheme rest).map fun _ => .other scheme

namespace Web

/-- Adds form-encoded pairs to the query.  Without pairs an empty query goes away. -/
def addPairs (pairs : List (String × String)) (u : Web) : Web :=
  let written := u.query.getD []
  let added := ['&'].intercalate (pairs.map Percent.formPair)
  let joined :=
    if written.isEmpty then added
    else if pairs.isEmpty then written
    else written ++ '&' :: added
  { u with query := if joined.isEmpty then none else some joined }

def target (u : Web) : List Char :=
  pathText u.path ++ (match u.query with
    | some q => '?' :: q
    | none => [])

def text (u : Web) : List Char :=
  u.scheme.toList ++ "://".toList ++ u.host.text ++
    (match u.port with
      | some n => ':' :: natText n
      | none => []) ++
    u.target ++
    (match u.fragment with
      | some f => '#' :: f
      | none => [])

end Web

end Url

end CodeShelf
