import CodeShelf.Config
import CodeShelf.Json.Reader
import CodeShelf.Transport
import CodeShelf.Transport.Status

/-!
# The service over HTTP

Calls as HTTP requests to the configured address, and the reading of the answers.
Who listens at the address is a parameter: nobody, or a peer that answers the
requests one after another from a list.
-/

namespace CodeShelf.Http

open Text

structure Request where
  method : Method
  target : String
  body : Option String
  deriving DecidableEq, Repr

/-- An answer of the peer as it reaches the caller: the one after any redirects, without its
head fields, which nothing reads.  It is `truncated` if reading its body fails, as it does when
the connection ends too early.  The statuses of HTTP are those below 1000. -/
structure Response where
  status : Nat
  body : List UInt8
  truncated : Bool := false
  deriving DecidableEq, Repr

def Response.isComplete (r : Response) : Bool :=
  isBodiless r.status || !r.truncated

def Response.text (r : Response) : List Char :=
  Utf8.decodeLossy (if isBodiless r.status then [] else r.body)

inductive Peer where
  | absent
  | serving (responses : List Response)
  deriving DecidableEq, Repr

structure Link where
  config : Config
  peer : Peer
  sent : List Request := []
  deriving DecidableEq, Repr

def exhausted : Response :=
  ⟨500, Utf8.encode "script exhausted".toList, false⟩

/-- Reads a body of a success: nothing at all is null, a JSON text its value, and any
other text that text as a string.  Blanks around it do not count. -/
def readBody (body : List Char) : Json :=
  match trim body with
  | [] => .null
  | text => (Json.parse text).getD (.str (String.ofList text))

def refusal (status : Nat) (body : List Char) : String :=
  "request failed (" ++ String.ofList (natText status) ++ " " ++ reason status ++ "): " ++
    String.ofList (trim body)

def Response.read (r : Response) : Reply :=
  if r.isComplete then
    if isSuccess r.status then .ok (readBody r.text)
    else .error ⟨some r.status, refusal r.status r.text⟩
  else .error ⟨none, "error decoding response body"⟩

def callUrl? (config : Config) (call : Call) : Option Url.Web :=
  let url? (path : String) : Option Url.Web :=
    match Url.parse (config.endpoint path).toList with
    | .ok (.web parts) => some parts
    | _ => none
  match call with
  | .get path params => (url? path).map (·.addPairs params)
  | .post path _ => url? path

def requestOf (call : Call) (url : Url.Web) : Request :=
  { method := call.method
    target := String.ofList url.target
    body :=
      match call with
      | .get _ _ => none
      | .post _ body => some body.toText }

def maxUrlLength : Nat := 65534

/-- Whether a request can name the URL: it is not too long, and its host has none of the
characters that a URL admits there and a request does not. -/
def canName (url : Url.Web) : Bool :=
  url.text.length ≤ maxUrlLength && !url.host.text.any ("\"`\x7b\x7d".toList.contains ·)

def unnameable (url : Url.Web) : String :=
  "builder error for url (" ++ String.ofList url.text ++ ")"

def unsent (url : Url.Web) : String :=
  "error sending request for url (" ++ String.ofList url.text ++ ")"

/-- Makes a call.  What the client does to follow a redirect is part of the peer's answer and
is not kept among the requests. -/
def Link.send (call : Call) (l : Link) : Link × Reply :=
  match callUrl? l.config call with
  | none => (l, .error ⟨none, "builder error"⟩)
  | some url =>
      if !canName url then (l, .error ⟨none, unnameable url⟩)
      else
        match l.peer with
        | .absent => (l, .error ⟨none, unsent url⟩)
        | .serving responses =>
            ({ l with
                peer := .serving responses.tail
                sent := l.sent ++ [requestOf call url] },
              (responses.head?.getD exhausted).read)

instance : Transport Link Empty where
  send call l := ((l.send call).1, .answered (l.send call).2)
  proceed hold _ := hold.elim

end CodeShelf.Http
