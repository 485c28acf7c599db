import CodeShelf.Error

/-!
# Execution requests

The text in an editor and the fate of its latest submission.  A submission is
pending until it is resolved, and while it is pending there is no other.  An edit
takes a displayed result away and leaves a pending submission alone.
-/

namespace CodeShelf

inductive ExecutionStatus where
  | idle
  | pending
  | succeeded (output : String)
  | failed (message : String)
  deriving DecidableEq, Repr

namespace ExecutionStatus

def isPending : ExecutionStatus → Bool
  | pending => true
  | _ => false

def isTerminal : ExecutionStatus → Bool
  | succeeded _ => true
  | failed _ => true
  | _ => false

theorem isPending_iff {status : ExecutionStatus} :
    status.isPending = true ↔ status = .pending := by
  cases status <;> simp [isPending]

end ExecutionStatus

def executionFailedMessage : String := "Error executing code. Please try again."

/-- The text in the editor, the text of the latest submission and its state. -/
structure Execution where
  source : String
  submitted : Option String := none
  status : ExecutionStatus := .idle
  deriving DecidableEq, Repr

namespace Execution

/-- Replaces the text.  A displayed result goes away. -/
def edit (text : String) (e : Execution) : Execution :=
  { e with
    source := text
    status := if e.status.isTerminal then .idle else e.status }

def editChanges (text : String) (e : Execution) : Bool :=
  e.status.isTerminal || e.source != text

def submit (e : Execution) : Except DataError Execution :=
  if e.status.isPending then .error .executionPending
  else .ok { e with submitted := some e.source, status := .pending }

def outcome : Option String → ExecutionStatus
  | some output => .succeeded output
  | none => .failed executionFailedMessage

def resolve (output : Option String) (e : Execution) : Option Execution :=
  if e.status.isPending then some { e with status := outcome output } else none

inductive Operation where
  | edit (text : String)
  | submit
  | resolve (output : Option String)
  deriving DecidableEq, Repr

inductive Result where
  | edited (changed : Bool)
  | submitted (payload : String)
  | refused (error : DataError)
  | resolved (taken : Bool)
  deriving DecidableEq, Repr

def perform (op : Operation) (e : Execution) : Execution × Result :=
  match op with
  | .edit text => (e.edit text, .edited (e.editChanges text))
  | .submit =>
      match e.submit with
      | .ok next => (next, .submitted next.source)
      | .error error => (e, .refused error)
  | .resolve output =>
      match e.resolve output with
      | some next => (next, .resolved true)
      | none => (e, .resolved false)

theorem editChanges_iff (text : String) (e : Execution) :
    e.editChanges text = true ↔ e.edit text ≠ e := by
  cases e with
  | mk source submitted status =>
      cases status <;>
        simp [editChanges, edit, ExecutionStatus.isTerminal]
      all_goals exact ⟨fun h k => h k.symm, fun h k => h k.symm⟩

theorem status_edit_iff (text : String) (e : Execution) :
    (e.edit text).status = .pending ↔ e.status = .pending := by
  cases hs : e.status <;> simp [edit, hs, ExecutionStatus.isTerminal]

theorem submit_eq_ok {e : Execution} (h : e.status ≠ .pending) :
    e.submit = .ok { e with submitted := some e.source, status := .pending } :=
  if_neg (by rwa [ExecutionStatus.isPending_iff])

theorem submit_eq_error {e : Execution} (h : e.status = .pending) :
    e.submit = .error .executionPending :=
  if_pos (ExecutionStatus.isPending_iff.mpr h)

theorem resolve_eq_some {e : Execution} (h : e.status = .pending) (output : Option String) :
    e.resolve output = some { e with status := outcome output } :=
  if_pos (ExecutionStatus.isPending_iff.mpr h)

theorem resolve_eq_none {e : Execution} (h : e.status ≠ .pending) (output : Option String) :
    e.resolve output = none :=
  if_neg (by rwa [ExecutionStatus.isPending_iff])

end Execution

end CodeShelf
