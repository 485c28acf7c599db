import CodeShelf.Proofs.Run
import CodeShelf.Session

/-!
# Submissions of a session

At most one execution of a session is under way, and a session in use is pending exactly
while there is one.  Whatever is edited meanwhile, the request carries the text that was
submitted, and the answer that settles a submission is its own.
-/

namespace CodeShelf

namespace Session

abbrev Move := CodeShelf.Move Operation Change

abbrev Event := CodeShelf.Event Session Operation Awaiting Result Change

abbrev Run := CodeShelf.Run Session Operation Awaiting Result Change

def EndTurn.over (t : EndTurn) : Turn Session Awaiting Result :=
  ⟨t.state, t.notified, .finish t.next.result⟩

def actor : Actor Session Operation Awaiting Result Change where
  fresh := {}
  start := start
  resume _ reply s := EndTurn.over (s.resume reply)
  change := change

/-! ## Turns -/

theorem status_prepare_iff (op : Operation) (e : Execution) :
    (op.prepare e).status = .pending ↔ e.status = .pending := by
  cases op with
  | run => rfl
  | execute text => exact Execution.status_edit_iff text e

theorem start_of_detached {s : Session} (op : Operation) (h : s.detached = true) :
    s.start op = .refuse s (.error .detached) := by
  simp [start, h]

theorem start_of_pending {s : Session} (op : Operation) (h : s.detached = false)
    (hp : s.execution.status = .pending) :
    s.start op = .refuse s (.error (.busy .execution)) := by
  simp [start, h, hp, ExecutionStatus.isPending]

theorem start_of_idle {s : Session} (op : Operation) (h : s.detached = false)
    (hp : s.execution.status ≠ .pending) :
    s.start op =
      ⟨{ s with execution :=
          { op.prepare s.execution with
            submitted := some (op.prepare s.execution).source
            status := .pending } }, true,
        .ask (.compile (op.prepare s.execution).source) .output⟩ := by
  have hp' : s.execution.status.isPending = false := by
    rw [← Bool.not_eq_true, ExecutionStatus.isPending_iff]
    exact hp
  have hsubmit := Execution.submit_eq_ok (mt (status_prepare_iff op s.execution).mp hp)
  simp [start, h, hp', hsubmit]

theorem resume_of_detached {s : Session} (reply : Reply) (h : s.detached = true) :
    EndTurn.over (s.resume reply) = .refuse s (.error .detached) := by
  simp [resume, h, EndTurn.over, Turn.refuse, Next.result]

def verdict : Reply → ExecutionStatus
  | .ok body =>
      match body.stringMember? "output" with
      | some output => .succeeded output
      | none => .failed "Error executing code. Please try again."
  | .error _ => .failed "Error executing code. Please try again."

theorem verdict_ne_pending (reply : Reply) : verdict reply ≠ .pending := by
  simp only [verdict]
  split
  · split <;> simp
  · simp

theorem outcome_output (reply : Reply) :
    Execution.outcome reply.output.toOption = verdict reply := by
  cases reply with
  | error e => rfl
  | ok body =>
      simp only [Reply.output, Wire.readOutput?, verdict]
      cases body.stringMember? "output" <;> rfl

theorem resume_of_pending {s : Session} (reply : Reply) (h : s.detached = false)
    (hp : s.execution.status = .pending) :
    EndTurn.over (s.resume reply) =
      ⟨{ s with execution := { s.execution with status := verdict reply } }, true,
        .finish (.ok (verdict reply))⟩ := by
  simp [resume, h, Execution.resolve_eq_some hp, EndTurn.over, Next.result, outcome_output]

/-! ## Runs -/

/-- How the submissions of a run stand: at most one request is under way, a session in
use is pending exactly while there is one, and that request carries the text of the
latest submission. -/
structure OneSubmission (r : Run) : Prop where
  single : r.waiting.length ≤ 1
  pending_iff : r.state.detached = false →
    (r.state.execution.status = .pending ↔ r.waiting ≠ [])
  payload : r.state.detached = false → ∀ p ∈ r.waiting,
    ∃ text, p.request = .compile text ∧ r.state.execution.submitted = some text

theorem OneSubmission.waiting_eq {r : Run} (h : OneSubmission r) {p : Pending Operation Awaiting}
    (hp : p ∈ r.waiting) : r.waiting = [p] := by
  have hlength := h.single
  match hw : r.waiting with
  | [] => simp [hw] at hp
  | [q] => simpa [hw, eq_comm] using hp
  | q :: q' :: rest => simp [hw] at hlength

theorem OneSubmission.refuse {r : Run} (h : OneSubmission r) (op : Operation) {result : Result}
    (hstart : r.state.start op = .refuse r.state result) :
    OneSubmission (r.extend (.ofTurn (.start r.tasks op) r.state (actor.start op r.state))) := by
  have hwaiting : (r.extend (.ofTurn (.start r.tasks op) r.state
      (actor.start op r.state))).waiting = r.waiting := by
    simp [Run.extend, Run.unanswered, Event.ofTurn, Event.opened, actor, hstart, Turn.refuse,
      Next.pending]
  have hstate : (r.extend (.ofTurn (.start r.tasks op) r.state
      (actor.start op r.state))).state = r.state := by
    simp [Run.extend, Event.ofTurn, actor, hstart, Turn.refuse]
  refine ⟨?_, ?_, ?_⟩
  · rw [hwaiting]
    exact h.single
  · rw [hwaiting, hstate]
    exact h.pending_iff
  · rw [hwaiting, hstate]
    exact h.payload

theorem OneSubmission.start {r : Run} (h : OneSubmission r) (op : Operation) :
    OneSubmission (r.extend (.ofTurn (.start r.tasks op) r.state (actor.start op r.state))) := by
  cases hd : r.state.detached with
  | true => exact h.refuse op (start_of_detached op hd)
  | false =>
      by_cases hp : r.state.execution.status = .pending
      · exact h.refuse op (start_of_pending op hd hp)
      · have hnone : r.waiting = [] := by
          by_contra hne
          exact hp ((h.pending_iff hd).mpr hne)
        have hturn : actor.start op r.state = _ := start_of_idle op hd hp
        rw [hturn]
        refine ⟨?_, ?_, ?_⟩ <;>
          simp [Run.extend, Run.unanswered, Event.ofTurn, Event.opened, Next.pending, hnone]

theorem OneSubmission.reply {r : Run} (h : OneSubmission r) {p : Pending Operation Awaiting}
    (reply : Reply) (hp : p ∈ r.waiting) :
    OneSubmission (r.extend
      (.ofTurn (.reply p reply) r.state (actor.resume p.awaiting reply r.state))) := by
  have hnone : r.waiting.filter (·.task != p.task) = [] := by
    simp [h.waiting_eq hp]
  cases hd : r.state.detached with
  | true =>
      have hturn : actor.resume p.awaiting reply r.state = _ := resume_of_detached reply hd
      rw [hturn]
      refine ⟨?_, ?_, ?_⟩ <;>
        simp [Run.extend, Run.unanswered, Event.ofTurn, Event.opened, Next.pending, Turn.refuse,
          hnone, hd]
  | false =>
      have hpending := (h.pending_iff hd).mpr (List.ne_nil_of_mem hp)
      have hturn : actor.resume p.awaiting reply r.state = _ :=
        resume_of_pending reply hd hpending
      rw [hturn]
      refine ⟨?_, ?_, ?_⟩ <;>
        simp [Run.extend, Run.unanswered, Event.ofTurn, Event.opened, Next.pending, hnone,
          verdict_ne_pending]

theorem OneSubmission.change {r : Run} (h : OneSubmission r) (c : Change) :
    OneSubmission (r.extend (.ofChange c r.state (actor.change c r.state))) := by
  have hwaiting : (r.extend (.ofChange c r.state (actor.change c r.state))).waiting =
      r.waiting := by
    simp [Run.extend, Run.unanswered, Event.ofChange, Event.opened]
  have hstate : (r.extend (.ofChange c r.state (actor.change c r.state))).state =
      (r.state.change c).1 := rfl
  cases hd : r.state.detached with
  | true =>
      have hsame : (r.state.change c).1 = r.state := by simp [Session.change, hd]
      refine ⟨?_, ?_, ?_⟩ <;> rw [hwaiting]
      · exact h.single
      · rw [hstate, hsame]
        exact h.pending_iff
      · rw [hstate, hsame]
        exact h.payload
  | false =>
      cases c with
      | edit text =>
          have hedit : (r.state.change (.edit text)).1 =
              { r.state with execution := r.state.execution.edit text } := by
            simp [Session.change, hd]
          refine ⟨?_, ?_, ?_⟩ <;> rw [hwaiting]
          · exact h.single
          · rw [hstate, hedit]
            intro hlive
            exact (Execution.status_edit_iff text r.state.execution).trans (h.pending_iff hlive)
          · rw [hstate, hedit]
            exact h.payload
      | detach =>
          have hdetached : (r.state.change .detach).1.detached = true := by
            simp [Session.change, hd]
          refine ⟨?_, ?_, ?_⟩ <;> rw [hwaiting]
          · exact h.single
          · rw [hstate, hdetached]
            simp
          · rw [hstate, hdetached]
            simp

theorem oneSubmission_run (moves : List Move) : OneSubmission (actor.run moves) := by
  refine Actor.run_induction ?_ ?_ moves
  · refine ⟨?_, ?_, ?_⟩ <;> simp [Actor.initial, actor]
  · intro moves e ih he
    cases he with
    | start op => exact ih.start op
    | reply p reply hp => exact ih.reply reply hp
    | change c => exact ih.change c

/-! ## Every submission -/

/-- How an operation of a session starts.  It is accepted exactly if the session is in
use and nothing is pending; the text it submits is the one in the editor, after
`execute` has put its own there; and the task then waits or has returned once.  On a
pending session in use it is refused and leaves no trace. -/
structure Submits (r : Run) (e : Event) (task : Nat) (op : Operation) : Prop where
  accepted_iff : e.request?.isSome = true ↔
    e.before.detached = false ∧ e.before.execution.status ≠ .pending
  text : e.request?.isSome = true →
    e.after.execution.source = (match op with
      | .run => e.before.execution.source
      | .execute text => text)
  payload : e.request?.isSome = true →
    e.request? = some (.compile e.after.execution.source) ∧
      e.after.execution.submitted = some e.after.execution.source ∧
      e.after.execution.status = .pending
  once : (r.results task).length + r.waits task = 1
  busy : e.before.detached = false → e.before.execution.status = .pending →
    e.result? = some (.error (.busy .execution)) ∧ e.after = e.before ∧
      e.request? = none ∧ e.notified = false

/-- How an operation of a session ends when its answer arrives: a session in use takes
the verdict of the answer to its latest submission, and a detached one takes nothing. -/
structure Ends (e : Event) (p : Pending Operation Awaiting) (reply : Reply) : Prop where
  live : e.before.detached = false →
    (∃ text, p.request = .compile text ∧ e.before.execution.submitted = some text) ∧
      e.result? = some (.ok (verdict reply)) ∧ e.after.execution.status = verdict reply
  detached : e.before.detached = true → e.result? = some (.error .detached)

theorem submits_of_mem_history {moves : List Move} {e : Event}
    (he : e ∈ (actor.run moves).history) {task : Nat} {op : Operation}
    (hcause : e.cause = .start task op) : Submits (actor.run moves) e task op := by
  have honce := Actor.results_add_waits_of_started he hcause
  obtain ⟨earlier, hpossible⟩ := Actor.exists_possible_of_mem_history he
  generalize actor.run earlier = before at hpossible
  cases hpossible with
  | reply p reply hp => cases hcause
  | change c => cases hcause
  | start op =>
      cases hcause
      cases hd : before.state.detached with
      | true =>
          have hturn : actor.start op before.state = _ := start_of_detached op hd
          rw [hturn]
          refine ⟨?_, ?_, ?_, honce, ?_⟩ <;>
            simp [Event.ofTurn, Event.request?, Turn.refuse, Next.request?, hd]
      | false =>
          by_cases hp : before.state.execution.status = .pending
          · have hturn : actor.start op before.state = _ := start_of_pending op hd hp
            rw [hturn]
            refine ⟨?_, ?_, ?_, honce, ?_⟩ <;>
              simp [Event.ofTurn, Event.request?, Event.result?, Turn.refuse, Next.request?,
                Next.result?, hp]
          · have hturn : actor.start op before.state = _ := start_of_idle op hd hp
            rw [hturn]
            refine ⟨?_, ?_, ?_, honce, ?_⟩
            · simp [Event.ofTurn, Event.request?, Next.request?, hd, hp]
            · intro _
              cases op <;> rfl
            · intro _
              exact ⟨rfl, rfl, rfl⟩
            · intro _ hpending
              exact absurd hpending hp

theorem ends_of_mem_history {moves : List Move} {e : Event}
    (he : e ∈ (actor.run moves).history) {p : Pending Operation Awaiting} {reply : Reply}
    (hcause : e.cause = .reply p reply) : Ends e p reply := by
  obtain ⟨earlier, hpossible⟩ := Actor.exists_possible_of_mem_history he
  have hone := oneSubmission_run earlier
  generalize actor.run earlier = before at hpossible hone
  cases hpossible with
  | start op => cases hcause
  | change c => cases hcause
  | reply q answer hp =>
      cases hcause
      constructor
      · intro hd
        have hpending := (hone.pending_iff hd).mpr (List.ne_nil_of_mem hp)
        have hturn : actor.resume p.awaiting reply before.state = _ :=
          resume_of_pending reply hd hpending
        rw [hturn]
        exact ⟨hone.payload hd p hp, rfl, rfl⟩
      · intro hd
        have hturn : actor.resume p.awaiting reply before.state = _ :=
          resume_of_detached reply hd
        rw [hturn]
        rfl

/-- The submissions of a session, in every interleaving of its operations: there is at
most one request under way; a session in use is pending exactly while there is one, and
the request carries the submitted text whatever was edited since; and every operation
starts and ends as `Submits` and `Ends` say. -/
theorem submissions_settled_once (moves : List Move) :
    let r := actor.run moves
    r.waiting.length ≤ 1 ∧
    (r.state.detached = false →
      (r.state.execution.status = .pending ↔ r.waiting.length = 1) ∧
      ∀ p ∈ r.waiting,
        ∃ text, p.request = .compile text ∧ r.state.execution.submitted = some text) ∧
    (∀ e ∈ r.history, ∀ task op, e.cause = .start task op → Submits r e task op) ∧
    (∀ e ∈ r.history, ∀ p reply, e.cause = .reply p reply → Ends e p reply) := by
  have h := oneSubmission_run moves
  refine ⟨h.single, ?_, ?_, ?_⟩
  · intro hd
    refine ⟨?_, h.payload hd⟩
    have hsingle := h.single
    have hpos := List.length_pos_iff (l := (actor.run moves).waiting)
    rw [h.pending_iff hd, ← hpos]
    omega
  · intro e he task op hcause
    exact submits_of_mem_history he hcause
  · intro e he p reply hcause
    exact ends_of_mem_history he hcause

end Session

end CodeShelf
