import CodeShelf.Service

/-!
# Turns

An operation of a store or a session is a sequence of turns.  Between two of them a
request to the service is under way, and other operations may take their turns.  A
turn is one indivisible change of the component's state.
-/

namespace CodeShelf

inductive Next (κ : Type) (ρ : Type) where
  | ask (request : Request) (awaiting : κ)
  | finish (result : ρ)
  deriving Repr

structure Turn (σ : Type) (κ : Type) (ρ : Type) where
  state : σ
  notified : Bool
  next : Next κ ρ
  deriving Repr

def Turn.refuse {σ κ ρ : Type} (state : σ) (result : ρ) : Turn σ κ ρ :=
  ⟨state, false, .finish result⟩

def Next.result {ρ : Type} : Next Empty ρ → ρ
  | ask _ awaiting => awaiting.elim
  | finish result => result

end CodeShelf
