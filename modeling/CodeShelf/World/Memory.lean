import CodeShelf.Transport.Memory
import CodeShelf.World

/-!
# Controlling the service in memory

What can be done to the service in memory while tasks are under way.  Releasing a
call wakes the task that waits at its gate; resuming an endpoint wakes every task
that a pause holds, and those whose endpoint is still paused park again.
-/

namespace CodeShelf

inductive Control where
  | insert (name code : String)
  | remove (id : SampleId)
  | shape (shape : ListingShape)
  | setOutput (code output : String)
  | fail (endpoint : Endpoint)
  | recover (endpoint : Endpoint)
  | pause (endpoint : Endpoint)
  | resume (endpoint : Endpoint)
  | gate (endpoint : Endpoint)
  | release (endpoint : Endpoint) (index : Nat)
  | samples
  | callCount (endpoint : Endpoint)
  deriving DecidableEq, Repr

inductive ControlResult where
  | none
  | id (id : SampleId)
  | released (found : Bool)
  | samples (samples : List Sample)
  | count (n : Nat)
  deriving DecidableEq, Repr

namespace World

abbrev InMemory := World Memory HeldCall

def withMemory (m : Memory) (w : InMemory) : InMemory :=
  { w with transport := m }

def quiet (m : Memory) (w : InMemory) (result : ControlResult) :
    Passage Memory HeldCall × ControlResult :=
  ({ world := w.withMemory m }, result)

def control (c : Control) (w : InMemory) : Passage Memory HeldCall × ControlResult :=
  let m := w.transport
  match c with
  | .insert name code =>
      let (m, id) := m.insert name code
      w.quiet m (.id id)
  | .remove id => w.quiet (m.remove id) .none
  | .shape shape => w.quiet { m with shape := shape } .none
  | .setOutput code output => w.quiet { m with outputs := (code, output) :: m.outputs } .none
  | .fail e => w.quiet { m with failing := Memory.including e m.failing } .none
  | .recover e => w.quiet { m with failing := Memory.excluding e m.failing } .none
  | .pause e => w.quiet { m with paused := Memory.including e m.paused } .none
  | .gate e => w.quiet { m with gated := Memory.including e m.gated } .none
  | .resume e =>
      let w := w.withMemory { m with paused := Memory.excluding e m.paused }
      (w.wakeWhere fun hold => hold.wait == .pause, .none)
  | .release e index =>
      let (m, found) := m.release e index
      let w := w.withMemory m
      if found then (w.wakeWhere fun hold => hold.wait == .gate e index, .released true)
      else ({ world := w }, .released false)
  | .samples => w.quiet m (.samples m.samples)
  | .callCount e => w.quiet m (.count (m.callCount e))

end World

end CodeShelf
