import CodeShelf.Text.Utf8
import CodeShelf.Transport

/-!
# The service in memory

An implementation of the service over a list of samples.  It logs every call to one
of its endpoints.  An endpoint can be gated, which holds each call to it until that
very call is released; paused, which holds its calls until the endpoint is resumed;
and made to fail.  A call passes its gate first, then the pause, then the test for
failure, and only then looks at the data.
-/

namespace CodeShelf

open Text

inductive Endpoint where
  | listSamples
  | idByName
  | contentById
  | createSample
  | compile
  | hello
  deriving DecidableEq, Repr

inductive ListingShape where
  | array
  | keyed
  | envelope
  deriving DecidableEq, Repr

structure LoggedCall where
  endpoint : Endpoint
  method : Method
  path : String
  deriving DecidableEq, Repr

inductive Question where
  | listing
  | idOf (name : String)
  | content (segment : String)
  | create (body : Json)
  | compile (body : Json)
  | hello
  deriving Repr

def Question.endpoint : Question → Endpoint
  | listing => .listSamples
  | idOf _ => .idByName
  | content _ => .contentById
  | create _ => .createSample
  | compile _ => .compile
  | hello => .hello

/-- What a held call waits for: the release of the call of the given index to the
endpoint, or the end of a pause. -/
inductive Wait where
  | gate (endpoint : Endpoint) (index : Nat)
  | pause
  deriving DecidableEq, Repr

structure HeldCall where
  wait : Wait
  question : Question
  deriving Repr

/-- The state of the service.  The last id has no bound; of a counter of 64 bits, what is proved
is meant for fewer than 2 ^ 64 samples. -/
structure Memory where
  samples : List Sample := []
  lastId : Nat := 0
  shape : ListingShape := .array
  outputs : List (String × String) := []
  failing : List Endpoint := []
  paused : List Endpoint := []
  gated : List Endpoint := []
  gates : List (Endpoint × Nat) := []
  calls : List LoggedCall := []

namespace Memory

/-! ## Routing -/

def contentSegment? (path : String) : Option String :=
  let start := Path.contentStart.toList
  if start.isPrefixOf path.toList then
    let segment := path.toList.drop start.length
    if segment.isEmpty || segment.contains '/' then none else some (String.ofList segment)
  else none

def route : Call → Option Question
  | .get path params =>
      if path = Path.samples then some .listing
      else if path = Path.idByName then some (.idOf ((params.lookup "name").getD ""))
      else if path = Path.hello then some .hello
      else (contentSegment? path).map .content
  | .post path body =>
      if path = Path.samples then some (.create body)
      else if path = Path.compile then some (.compile body)
      else none

def logged (endpoint : Endpoint) (call : Call) : LoggedCall :=
  ⟨endpoint, call.method, call.path⟩

def notFound (what : String) : Reply :=
  .error ⟨some 404, what ++ " not found"⟩

/-! ## Data -/

def insert (name code : String) (m : Memory) : Memory × SampleId :=
  let n := m.lastId + 1
  let id := SampleId.ofNat n
  ({ m with lastId := n, samples := m.samples ++ [⟨id, name, code⟩] }, id)

def withSamples (samples : List (String × String)) : Memory :=
  samples.foldl (fun m s => (m.insert s.1 s.2).1) {}

def remove (id : SampleId) (m : Memory) : Memory :=
  { m with samples := m.samples.filter fun s => s.id != id }

def keyedListing (samples : List Sample) : Json :=
  .ofPairs (samples.map fun s => (s.id.text, s.toJson))

def listing (m : Memory) : Json :=
  match m.shape with
  | .array => .arr (m.samples.map Sample.toJson)
  | .keyed => keyedListing m.samples
  | .envelope => .obj [(Wire.envelopeKey, keyedListing m.samples)]

def greeting : Json :=
  .obj [("message", .str "Hello from the monkeypad backend")]

def answer (q : Question) (m : Memory) : Memory × Reply :=
  match q with
  | .listing => (m, .ok m.listing)
  | .idOf name =>
      match m.samples.find? (·.name == name) with
      | some s => (m, .ok (.str s.id.text))
      | none => (m, notFound "name")
  | .hello => (m, .ok greeting)
  | .content segment =>
      match Utf8.decode? (Percent.decode segment.toList) with
      | none => (m, .error ⟨some 400, "malformed id"⟩)
      | some id =>
          match m.samples.find? (·.id.text == String.ofList id) with
          | some s => (m, .ok s.toJson)
          | none => (m, notFound "sample")
  | .create body =>
      match body.stringMember? "name", body.stringMember? "code" with
      | some name, some code =>
          let (m, id) := m.insert name code
          (m, .ok (Sample.mk id name code).toJson)
      | _, _ => (m, .error ⟨some 400, "name and code are required"⟩)
  | .compile body =>
      match body.stringMember? "code" with
      | none => (m, .error ⟨some 400, "missing code"⟩)
      | some code =>
          match m.outputs.lookup code with
          | some output => (m, .ok (.obj [("output", .str output)]))
          | none => (m, .error ⟨some 500, "evaluation failed"⟩)

/-! ## Holding calls -/

def callCount (endpoint : Endpoint) (m : Memory) : Nat :=
  (m.calls.filter (·.endpoint == endpoint)).length

def passGate (q : Question) (m : Memory) : Memory × Progress HeldCall :=
  if m.paused.contains q.endpoint then (m, .held ⟨.pause, q⟩)
  else if m.failing.contains q.endpoint then
    (m, .answered (.error ⟨some 500, "injected failure"⟩))
  else
    let (m, reply) := m.answer q
    (m, .answered reply)

def receive (call : Call) (m : Memory) : Memory × Progress HeldCall :=
  match route call with
  | none => (m, .answered (notFound call.path))
  | some q =>
      -- Counted before the call is logged, so the first call of an endpoint has index 0.
      let index := m.callCount q.endpoint
      let m := { m with calls := m.calls ++ [logged q.endpoint call] }
      if m.gated.contains q.endpoint then
        ({ m with gates := m.gates ++ [(q.endpoint, index)] },
          .held ⟨.gate q.endpoint index, q⟩)
      else m.passGate q

instance : Transport Memory HeldCall where
  send := receive
  proceed hold := passGate hold.question

def release (endpoint : Endpoint) (index : Nat) (m : Memory) : Memory × Bool :=
  if m.gates.contains (endpoint, index) then
    ({ m with gates := m.gates.filter (· != (endpoint, index)) }, true)
  else (m, false)

def including (endpoint : Endpoint) (set : List Endpoint) : List Endpoint :=
  if set.contains endpoint then set else set ++ [endpoint]

def excluding (endpoint : Endpoint) (set : List Endpoint) : List Endpoint :=
  set.filter (· != endpoint)

end Memory

end CodeShelf
