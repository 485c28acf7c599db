import CodeShelf.Text.Percent
import CodeShelf.Wire

/-!
# The service and its calls

The service answers six requests.  `Request.call` says how each is put to it, and the
functions on `Reply` say how each answer is read.
-/

namespace CodeShelf

open Text

inductive Method where
  | get
  | post
  deriving DecidableEq, Repr

def Method.word : Method → String
  | get => "GET"
  | post => "POST"

inductive Call where
  | get (path : String) (params : List (String × String))
  | post (path : String) (body : Json)
  deriving Repr

def Call.method : Call → Method
  | get _ _ => .get
  | post _ _ => .post

def Call.path : Call → String
  | get path _ => path
  | post path _ => path

abbrev Reply := Except CallError Json

namespace Path

def samples : String := "/code/db_content"

def idByName : String := "/code/id_by_name"

def compile : String := "/code/compile"

def hello : String := "/code/hello"

def contentStart : String := "/code/"

/-- The path of a sample's content; the id stays one segment. -/
def content (id : SampleId) : String :=
  contentStart ++ String.ofList (Percent.segment id.text.toList)

end Path

inductive Request where
  | listing
  | idOf (name : String)
  | content (id : SampleId)
  | create (draft : Draft)
  | compile (code : String)
  | hello
  deriving DecidableEq, Repr

def Request.call : Request → Call
  | listing => .get Path.samples []
  | idOf name => .get Path.idByName [("name", name)]
  | content id => .get (Path.content id) []
  | create draft => .post Path.samples draft.toJson
  | compile code => .post Path.compile (.obj [("code", .str code)])
  | hello => .get Path.hello []

namespace Reply

def malformed (fault : Wire.Fault) : CallError :=
  ⟨none, fault.toError.message⟩

def samples : Reply → Except CallError (List Sample)
  | .error e => .error e
  | .ok body => (Wire.readListing body).mapError malformed

def id? : Reply → Except CallError (Option SampleId)
  | .error e => .error e
  | .ok body => .ok (Wire.resolveId body)

def code : Reply → Except CallError String
  | .error e => .error e
  | .ok body => (Wire.readCode body).mapError malformed

def output : Reply → Except CallError String
  | .error e => .error e
  | .ok body =>
      match Wire.readOutput? body with
      | some output => .ok output
      | none => .error ⟨none, "compile response has no string `output`: " ++ body.toText⟩

end Reply

end CodeShelf
