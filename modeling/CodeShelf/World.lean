import CodeShelf.Session
import CodeShelf.Store
import CodeShelf.Transport

/-!
# Stores and sessions over one transport

A world is a transport, the stores and sessions that share it, and the tasks that are
parked because the transport holds their calls.  A task runs without interruption
until it is over or its call is held; it can then be woken, and it goes on where it
was.  Nothing that a task does wakes another one, so tasks that are woken together
run one after another.
-/

namespace CodeShelf

inductive Component where
  | store (index : Nat)
  | session (index : Nat)
  deriving DecidableEq, Repr

inductive Reading where
  | samples
  | id
  | code
  | output
  | body
  deriving DecidableEq, Repr

inductive Finding where
  | samples (samples : List Sample)
  | id (id : Option SampleId)
  | code (text : String)
  | output (text : String)
  | body (body : Json)
  deriving Repr

def Reading.read : Reading → Reply → Except CallError Finding
  | samples, r => r.samples.map .samples
  | id, r => r.id?.map .id
  | code, r => r.code.map .code
  | output, r => r.output.map .output
  | body, r => r.map .body

inductive Job where
  | store (index : Nat) (awaiting : Store.Awaiting)
  | session (index : Nat) (awaiting : Session.Awaiting)
  | bare (reading : Reading)
  deriving DecidableEq, Repr

def Job.callsLeft : Job → Nat
  | store _ awaiting => awaiting.callsLeft
  | session _ _ => 1
  | bare _ => 1

inductive Outcome where
  | store (result : Store.Result)
  | session (result : Session.Result)
  | bare (result : Except CallError Finding)
  deriving Repr

structure Parked (ω : Type) where
  task : Nat
  job : Job
  hold : ω

structure World (τ : Type) (ω : Type) where
  transport : τ
  stores : List Store
  sessions : List Session
  parked : List (Parked ω) := []

/-- A world on its way through a step: the tasks that are over, in order, and the
components whose subscribers were notified. -/
structure Passage (τ : Type) (ω : Type) where
  world : World τ ω
  finished : List (Nat × Outcome) := []
  notified : List Component := []

/-- What can be done in a world.  The first three start a task. -/
inductive Action where
  | store (index : Nat) (op : Store.Operation)
  | session (index : Nat) (op : Session.Operation)
  | bare (call : Call) (reading : Reading)
  | changeStore (index : Nat) (change : Store.Change)
  | changeSession (index : Nat) (change : Session.Change)

inductive TaskNext where
  | send (call : Call) (job : Job)
  | finish (outcome : Outcome)

namespace World

variable {τ ω : Type}

def fresh (transport : τ) (stores sessions : Nat) : World τ ω where
  transport := transport
  stores := List.replicate stores {}
  sessions := List.replicate sessions {}

end World

namespace Passage

variable {τ ω : Type}

def notify (notified : Bool) (c : Component) (p : Passage τ ω) : Passage τ ω :=
  if notified then { p with notified := p.notified ++ [c] } else p

def setStore (index : Nat) (s : Store) (notified : Bool) (p : Passage τ ω) : Passage τ ω :=
  { p with world := { p.world with stores := p.world.stores.set index s } }.notify notified
    (.store index)

def takeStoreTurn (index : Nat) (t : Store.StoreTurn) (p : Passage τ ω) :
    Passage τ ω × TaskNext :=
  ( p.setStore index t.state t.notified,
    match t.next with
    | .ask request awaiting => .send request.call (.store index awaiting)
    | .finish result => .finish (.store result) )

def setSession (index : Nat) (s : Session) (notified : Bool) (p : Passage τ ω) : Passage τ ω :=
  { p with world := { p.world with sessions := p.world.sessions.set index s } }.notify notified
    (.session index)

def takeSessionTurn (index : Nat) (t : Session.StartTurn) (p : Passage τ ω) :
    Passage τ ω × TaskNext :=
  ( p.setSession index t.state t.notified,
    match t.next with
    | .ask request awaiting => .send request.call (.session index awaiting)
    | .finish result => .finish (.session result) )

/-- Hands the answer to the component that waits for it.  A component that is not
there counts as detached. -/
def answer (job : Job) (reply : Reply) (p : Passage τ ω) : Passage τ ω × TaskNext :=
  match job with
  | .store index awaiting =>
      match p.world.stores[index]? with
      | some s => p.takeStoreTurn index (s.resume awaiting reply)
      | none => (p, .finish (.store (.error .detached)))
  | .session index _ =>
      match p.world.sessions[index]? with
      | some s =>
          let t := s.resume reply
          (p.setSession index t.state t.notified, .finish (.session t.next.result))
      | none => (p, .finish (.session (.error .detached)))
  | .bare reading => (p, .finish (.bare (reading.read reply)))

theorem callsLeft_answer {job next : Job} {reply : Reply} {p : Passage τ ω} {call : Call}
    (h : (p.answer job reply).2 = .send call next) : next.callsLeft < job.callsLeft := by
  cases job with
  | store index awaiting =>
      simp only [answer] at h
      split at h
      · rename_i s hs
        simp only [takeStoreTurn] at h
        split at h
        · rename_i request awaiting' hn
          simp only [TaskNext.send.injEq] at h
          rw [← h.2]
          exact Store.callsLeft_resume hn
        · simp at h
      · simp at h
  | session index awaiting =>
      simp only [answer] at h
      split at h <;> simp at h
  | bare reading => simp [answer] at h

def finish (task : Nat) (outcome : Outcome) (p : Passage τ ω) : Passage τ ω :=
  { p with finished := p.finished ++ [(task, outcome)] }

def park (task : Nat) (job : Job) (hold : ω) (p : Passage τ ω) : Passage τ ω :=
  { p with world := { p.world with parked := p.world.parked ++ [⟨task, job, hold⟩] } }

variable [Transport τ ω]

def send (call : Call) (p : Passage τ ω) : Passage τ ω × Progress ω :=
  let sent := Transport.send call p.world.transport
  ({ p with world := { p.world with transport := sent.1 } }, sent.2)

/-- Runs a task on from the progress of its call until it is over or parked. -/
def run (task : Nat) (job : Job) (progress : Progress ω) (p : Passage τ ω) : Passage τ ω :=
  match progress with
  | .held hold => p.park task job hold
  | .answered reply =>
      match _h : (p.answer job reply).2 with
      | .finish outcome => (p.answer job reply).1.finish task outcome
      | .send call next =>
          let sent := (p.answer job reply).1.send call
          run task next sent.2 sent.1
termination_by job.callsLeft
decreasing_by exact callsLeft_answer _h

def begin (task : Nat) (t : Passage τ ω × TaskNext) : Passage τ ω :=
  match t.2 with
  | .finish outcome => t.1.finish task outcome
  | .send call job =>
      let sent := t.1.send call
      sent.1.run task job sent.2

def wake (woken : List (Parked ω)) (p : Passage τ ω) : Passage τ ω :=
  woken.foldl
    (fun p w =>
      let proceeded := Transport.proceed w.hold p.world.transport
      { p with world := { p.world with transport := proceeded.1 } }.run w.task w.job
        proceeded.2)
    p

end Passage

namespace World

variable {τ ω : Type} [Transport τ ω]

def act (task : Nat) (a : Action) (w : World τ ω) : Passage τ ω :=
  let p : Passage τ ω := { world := w }
  match a with
  | .store index op =>
      match w.stores[index]? with
      | some s => Passage.begin task (p.takeStoreTurn index (s.start op))
      | none => p
  | .session index op =>
      match w.sessions[index]? with
      | some s => Passage.begin task (p.takeSessionTurn index (s.start op))
      | none => p
  | .bare call reading => Passage.begin task (p, .send call (.bare reading))
  | .changeStore index change =>
      match w.stores[index]? with
      | some s =>
          let changed := s.change change
          p.setStore index changed.1 changed.2
      | none => p
  | .changeSession index change =>
      match w.sessions[index]? with
      | some s =>
          let changed := s.change change
          p.setSession index changed.1 changed.2
      | none => p

/-- Wakes the parked tasks that `chosen` picks, in the order in which they parked. -/
def wakeWhere (chosen : ω → Bool) (w : World τ ω) : Passage τ ω :=
  let woken := w.parked.filter fun t => chosen t.hold
  let world := { w with parked := w.parked.filter fun t => !chosen t.hold }
  Passage.wake woken { world := world }

end World

end CodeShelf
