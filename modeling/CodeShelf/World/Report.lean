import CodeShelf.World

/-!
# What a step has changed

The components that a step notified and those whose view it changed, stores before
sessions and each kind by index.
-/

namespace CodeShelf

inductive ComponentView where
  | store (view : StoreView)
  | session (session : Session)
  deriving DecidableEq, Repr

namespace World

variable {τ ω : Type}

def components (w : World τ ω) : List Component :=
  (List.range w.stores.length).map .store ++ (List.range w.sessions.length).map .session

def view? (w : World τ ω) : Component → Option ComponentView
  | .store index => (w.stores[index]?).map fun s => .store s.view
  | .session index => (w.sessions[index]?).map .session

def changes (before after : World τ ω) : List (Component × ComponentView) :=
  after.components.filterMap fun c =>
    if before.view? c = after.view? c then none else (after.view? c).map fun v => (c, v)

def pending (w : World τ ω) : List Nat :=
  (w.parked.map (·.task)).mergeSort

end World

def Passage.notifiedInOrder {τ ω : Type} (p : Passage τ ω) : List Component :=
  p.world.components.filter p.notified.contains

end CodeShelf
