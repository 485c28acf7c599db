import CodeShelf.Transport.Http

/-!
# HTTP messages as bytes

The bytes of a request, and the reading of the bytes that a peer sends before it
closes the connection.  The body of an answer is as long as the answer says, comes in
chunks, or goes on to the end.
-/

namespace CodeShelf.Http

open Text

def headLine (line : String) : List Char :=
  line.toList ++ ['\r', '\n']

def Request.bytes (host : String) (r : Request) : List UInt8 :=
  let body := Utf8.encode (r.body.getD "").toList
  let bodyHead :=
    if r.body.isSome then
      headLine "Content-Type: application/json" ++
        headLine ("Content-Length: " ++ toString body.length)
    else []
  Utf8.encode
    (headLine (r.method.word ++ " " ++ r.target ++ " HTTP/1.1") ++ headLine ("Host: " ++ host) ++
      headLine "Accept: */*" ++ headLine "Connection: close" ++ bodyHead ++ headLine "") ++
    body

def splitHead? : List UInt8 → Option (List UInt8 × List UInt8)
  | 13 :: 10 :: 13 :: 10 :: rest => some ([], rest)
  | b :: rest => (splitHead? rest).map fun p => (b :: p.1, p.2)
  | [] => none

def statusOf? (line : List Char) : Option Nat :=
  match line.splitOn ' ' with
  | _ :: code :: _ => if code.isEmpty then none else Url.digitsIn? 10 code
  | _ => none

def fieldOf? (name : String) (lines : List (List Char)) : Option (List Char) :=
  lines.findSome? fun line =>
    if (line.takeWhile (· != ':')).map Char.toLower = name.toList
    then some (trim (line.drop (name.length + 1)))
    else none

/-- Joins chunks.  Returns none where they end too early; every chunk has at least a
line for its size, so the bound on their number is never met. -/
def joinChunks : Nat → List UInt8 → Option (List UInt8)
  | 0, _ => none
  | bound + 1, bytes => do
      let line := bytes.takeWhile (· != 10)
      let digits := (line.map fun b => Char.ofNat b.toNat).takeWhile fun c => (hexValue? c).isSome
      let size ← if digits.isEmpty then none else Url.digitsIn? 16 digits
      let rest := bytes.drop (line.length + 1)
      if size = 0 then some []
      else if rest.length < size + 2 then none
      else (joinChunks bound (rest.drop (size + 2))).map (rest.take size ++ ·)

/-- The response that a head and the bytes after it make.  Where the status admits no body
there is none, whatever the head announces. -/
def Response.ofParts (status : Nat) (lines : List (List Char)) (bytes : List UInt8) : Response :=
  if isBodiless status then ⟨status, [], false⟩
  else if fieldOf? "transfer-encoding" lines = some "chunked".toList then
    match joinChunks (bytes.length + 1) bytes with
    | some body => ⟨status, body, false⟩
    | none => ⟨status, [], true⟩
  else
    match (fieldOf? "content-length" lines).bind (Url.digitsIn? 10) with
    | some length => ⟨status, bytes.take length, decide (bytes.length < length)⟩
    | none => ⟨status, bytes, false⟩

def Response.lost : Response :=
  ⟨0, [], true⟩

def Response.ofBytes (bytes : List UInt8) : Response :=
  match splitHead? bytes with
  | none => .lost
  | some (head, body) =>
      let lines := (Utf8.decodeLossy head).splitOn '\n'
      match statusOf? (lines.headD []) with
      | none => .lost
      | some status => .ofParts status lines.tail body

end CodeShelf.Http
