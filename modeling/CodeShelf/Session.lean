import CodeShelf.Execution
import CodeShelf.Turn

/-!
# The execution session

A session is one editor buffer whose text can be executed by the service.  At most
one execution is pending; another is refused, and the text stays as it is.  A session
that is detached stays as it is.
-/

namespace CodeShelf

structure Session where
  execution : Execution := { source := "" }
  detached : Bool := false
  deriving DecidableEq, Repr

namespace Session

inductive Operation where
  | run
  | execute (text : String)
  deriving DecidableEq, Repr

inductive Change where
  | edit (text : String)
  | detach
  deriving DecidableEq, Repr

inductive Awaiting where
  | output
  deriving DecidableEq, Repr

abbrev Result := Except OperationError ExecutionStatus

abbrev StartTurn := Turn Session Awaiting Result

abbrev EndTurn := Turn Session Empty Result

def Operation.prepare : Operation → Execution → Execution
  | run, e => e
  | execute text, e => e.edit text

def start (op : Operation) (s : Session) : StartTurn :=
  if s.detached then .refuse s (.error .detached)
  else if s.execution.status.isPending then .refuse s (.error (.busy .execution))
  else
    let prepared := op.prepare s.execution
    match prepared.submit with
    | .error e => .refuse s (.error (.ofData e))
    | .ok execution =>
        ⟨{ s with execution := execution }, true, .ask (.compile prepared.source) .output⟩

/-- Ends an operation when the answer it waits for arrives.  A detached session drops
the answer. -/
def resume (reply : Reply) (s : Session) : EndTurn :=
  if s.detached then .refuse s (.error .detached)
  else
    match s.execution.resolve reply.output.toOption with
    | none => .refuse s (.error .detached)
    | some execution =>
        ⟨{ s with execution := execution }, true, .finish (.ok execution.status)⟩

def change (c : Change) (s : Session) : Session × Bool :=
  if s.detached then (s, false)
  else
    match c with
    | .edit text =>
        ({ s with execution := s.execution.edit text }, s.execution.editChanges text)
    | .detach => ({ s with detached := true }, true)

end Session

end CodeShelf
