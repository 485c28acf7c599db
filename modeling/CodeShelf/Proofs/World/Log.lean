import CodeShelf.Proofs.World.Chronicle

/-!
# The log of a world

What is recorded of the turns of a world says which calls its tasks send, whatever becomes of
them.  Over the service in memory the log grows by just these calls, one entry for each that
goes to an endpoint, in the order in which they are sent.
-/

namespace CodeShelf

variable {τ ω : Type}

def TaskNext.call? : TaskNext → Option Call
  | send call _ => some call
  | finish _ => none

def Record.call? : Record → Option Call
  | store _ e => (e.next.bind Next.request?).map Request.call
  | session _ e => (e.next.bind Next.request?).map Request.call
  | other _ _ => none

namespace Passage

theorem call?_storeTurn (met : Incident Store.Operation Store.Change) (index : Nat)
    (t : Store.StoreTurn) (p : Passage τ ω) :
    (Record.store index (.ofTurn met t)).call? = (p.takeStoreTurn index t).2.call? := by
  obtain ⟨state, notified, next⟩ := t
  cases next <;> rfl

theorem call?_sessionTurn (met : Incident Session.Operation Session.Change) (index : Nat)
    (t : Session.StartTurn) (p : Passage τ ω) :
    (Record.session index (.ofTurn met t)).call? = (p.takeSessionTurn index t).2.call? := by
  obtain ⟨state, notified, next⟩ := t
  cases next <;> rfl

theorem call?_answerRecord (task : Nat) (job : Job) (reply : Reply) (p : Passage τ ω) :
    (p.answerRecord task job reply).call? = (p.answer job reply).2.call? := by
  cases job with
  | store index awaiting =>
      simp only [answer, answerRecord]
      cases p.world.stores[index]? with
      | none => rfl
      | some s => exact call?_storeTurn _ index _ p
  | session index awaiting =>
      simp only [answer, answerRecord]
      cases p.world.sessions[index]? with
      | none => rfl
      | some s => exact call?_sessionTurn (.reply task _) index (s.resume reply).over p
  | bare reading => rfl

end Passage

namespace World

variable [Transport τ ω]

def actCalls (task : Nat) (a : Action) (w : World τ ω) : List Call :=
  let recorded := (w.actRecords task a).filterMap Record.call?
  match a with
  -- A call that belongs to no component is sent before the first record.
  | .bare call _ => call :: recorded
  | _ => recorded

def wakeCalls (chosen : ω → Bool) (w : World τ ω) : List Call :=
  (w.wakeRecords chosen).filterMap Record.call?

end World

/-! ## The log -/

namespace Memory

def noted? (call : Call) : Option LoggedCall :=
  (route call).map fun q => logged q.endpoint call

theorem calls_passGate (q : Question) (m : Memory) : (m.passGate q).1.calls = m.calls := by
  obtain ⟨samples, lastId, h⟩ := exists_passGate_eq q m
  rw [h]

theorem calls_receive (call : Call) (m : Memory) :
    (m.receive call).1.calls = m.calls ++ (noted? call).toList := by
  simp only [receive, noted?]
  cases route call with
  | none => simp
  | some q =>
      simp only [Option.map_some, Option.toList_some]
      split
      · rfl
      · exact calls_passGate q _

end Memory

namespace Passage

def LogGrows (p q : Passage Memory HeldCall) (calls : List Call) : Prop :=
  q.world.transport.calls = p.world.transport.calls ++ calls.filterMap Memory.noted?

variable {p q r : Passage Memory HeldCall} {calls calls' : List Call}

theorem LogGrows.trans (h : LogGrows p q calls) (h' : LogGrows q r calls') :
    LogGrows p r (calls ++ calls') := by
  rw [LogGrows, List.filterMap_append, ← List.append_assoc, ← h, ← h']

theorem logGrows_nil (h : q.world.transport.calls = p.world.transport.calls) :
    LogGrows p q [] := by
  rw [LogGrows, h, List.filterMap_nil, List.append_nil]

theorem logGrows_send (call : Call) (p : Passage Memory HeldCall) :
    LogGrows p (p.send call).1 [call] := by
  change (p.world.transport.receive call).1.calls = _
  rw [Memory.calls_receive]
  cases hnoted : Memory.noted? call <;> simp [hnoted]

theorem logGrows_answer (job : Job) (reply : Reply) (p : Passage Memory HeldCall) :
    LogGrows p (p.answer job reply).1 [] :=
  logGrows_nil (by rw [(frame_answer job reply p).1])

theorem logGrows_run (task : Nat) (job : Job) (progress : Progress HeldCall)
    (p : Passage Memory HeldCall) :
    LogGrows p (p.run task job progress)
      ((p.runRecords task job progress).filterMap Record.call?) := by
  fun_induction Passage.run task job progress p with
  | case1 job p hold =>
      rw [runRecords]
      exact logGrows_nil rfl
  | case2 job p reply outcome hnext =>
      have hcall := call?_answerRecord task job reply p
      rw [hnext, TaskNext.call?] at hcall
      rw [runRecords_of_finish hnext, List.filterMap_cons_none hcall]
      exact logGrows_answer job reply p
  | case3 job p reply call next hnext sent ih =>
      have hcall := call?_answerRecord task job reply p
      rw [hnext, TaskNext.call?] at hcall
      rw [runRecords_of_send hnext, List.filterMap_cons_some hcall]
      exact (logGrows_answer job reply p).trans ((logGrows_send call _).trans ih)

theorem logGrows_begin (task : Nat) {t : Passage Memory HeldCall × TaskNext} {record : Record}
    (h : record.call? = t.2.call?) :
    LogGrows t.1 (begin task t) ((record :: beginRecords task t).filterMap Record.call?) := by
  obtain ⟨p, next⟩ := t
  cases next with
  | finish outcome =>
      rw [List.filterMap_cons_none h]
      exact logGrows_nil rfl
  | send call job =>
      rw [List.filterMap_cons_some h]
      exact (logGrows_send call p).trans (logGrows_run task job _ _)

theorem logGrows_wake (woken : List (Parked HeldCall)) (p : Passage Memory HeldCall) :
    LogGrows p (wake woken p) ((wakeRecords woken p).filterMap Record.call?) := by
  induction woken generalizing p with
  | nil => exact logGrows_nil rfl
  | cons w woken ih =>
      rw [wake_cons, wakeRecords, List.filterMap_append]
      have hproceed : LogGrows p (p.proceed w).1 [] :=
        logGrows_nil (Memory.calls_passGate w.hold.question p.world.transport)
      exact hproceed.trans ((logGrows_run w.task w.job _ _).trans (ih _))

end Passage

namespace World

open Passage

theorem logGrows_act (task : Nat) (a : Action) (w : InMemory) :
    LogGrows { world := w } (w.act task a) (w.actCalls task a) := by
  cases a with
  | store index op =>
      simp only [act, actCalls, actRecords]
      cases w.stores[index]? with
      | none => exact logGrows_nil rfl
      | some s =>
          have hturn : LogGrows { world := w }
              (takeStoreTurn index (s.start op) { world := w }).1 [] :=
            logGrows_nil (by simp [takeStoreTurn])
          exact hturn.trans (logGrows_begin task (call?_storeTurn _ index _ _))
  | session index op =>
      simp only [act, actCalls, actRecords]
      cases w.sessions[index]? with
      | none => exact logGrows_nil rfl
      | some s =>
          have hturn : LogGrows { world := w }
              (takeSessionTurn index (s.start op) { world := w }).1 [] :=
            logGrows_nil (by simp [takeSessionTurn])
          exact hturn.trans (logGrows_begin task (call?_sessionTurn _ index _ _))
  | bare call reading => exact (logGrows_send call _).trans (logGrows_run task _ _ _)
  | changeStore index change =>
      simp only [act, actCalls, actRecords]
      cases w.stores[index]? with
      | none => exact logGrows_nil rfl
      | some s => exact logGrows_nil (by simp)
  | changeSession index change =>
      simp only [act, actCalls, actRecords]
      cases w.sessions[index]? with
      | none => exact logGrows_nil rfl
      | some s => exact logGrows_nil (by simp)

theorem logGrows_wakeWhere (chosen : HeldCall → Bool) (w : InMemory) :
    LogGrows { world := w } (w.wakeWhere chosen) (w.wakeCalls chosen) :=
  logGrows_wake _ _

end World

end CodeShelf
