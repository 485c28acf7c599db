import CodeShelf.Turn
import Mathlib.Data.List.Induction
import Mathlib.Data.List.Nodup

/-!
# Runs of one component

A component lives through a sequence of moves: an operation is started, the answer to a
request arrives, or a change is made.  The moves come in any order, and an answer may
say anything, so the runs below are all the interleavings of a component's operations
over all transports.  A run keeps the requests that are under way and the history of
everything that happened.
-/

namespace CodeShelf

structure Actor (σ ι κ ρ χ : Type) where
  fresh : σ
  start : ι → σ → Turn σ κ ρ
  resume : κ → Reply → σ → Turn σ κ ρ
  change : χ → σ → σ × Bool

structure Pending (ι κ : Type) where
  task : Nat
  op : ι
  request : Request
  awaiting : κ
  deriving DecidableEq, Repr

/-- What can be done to a component.  Tasks are numbered in the order of their starts. -/
inductive Move (ι χ : Type) where
  | start (op : ι)
  | reply (task : Nat) (reply : Reply)
  | change (c : χ)

inductive Cause (ι κ χ : Type) where
  | start (task : Nat) (op : ι)
  | reply (pending : Pending ι κ) (reply : Reply)
  | change (c : χ)

/-- One event in the life of a component: its cause, the state before and after,
whether subscribers were notified, and how the operation goes on if there is one. -/
structure Event (σ ι κ ρ χ : Type) where
  cause : Cause ι κ χ
  before : σ
  after : σ
  notified : Bool
  next : Option (Next κ ρ)

structure Run (σ ι κ ρ χ : Type) where
  state : σ
  tasks : Nat := 0
  waiting : List (Pending ι κ) := []
  history : List (Event σ ι κ ρ χ) := []

variable {σ ι κ ρ χ : Type}

namespace Next

def pending (task : Nat) (op : ι) : Next κ ρ → List (Pending ι κ)
  | ask request awaiting => [⟨task, op, request, awaiting⟩]
  | finish _ => []

def request? : Next κ ρ → Option Request
  | ask request _ => some request
  | finish _ => none

def result? : Next κ ρ → Option ρ
  | ask _ _ => none
  | finish result => some result

end Next

namespace Event

def ofTurn (cause : Cause ι κ χ) (before : σ) (t : Turn σ κ ρ) : Event σ ι κ ρ χ :=
  ⟨cause, before, t.state, t.notified, some t.next⟩

def ofChange (c : χ) (before : σ) (changed : σ × Bool) : Event σ ι κ ρ χ :=
  ⟨.change c, before, changed.1, changed.2, none⟩

def result? (e : Event σ ι κ ρ χ) : Option ρ :=
  e.next.bind Next.result?

def request? (e : Event σ ι κ ρ χ) : Option Request :=
  e.next.bind Next.request?

def task? (e : Event σ ι κ ρ χ) : Option Nat :=
  match e.cause with
  | .start task _ => some task
  | .reply p _ => some p.task
  | .change _ => none

def opened (e : Event σ ι κ ρ χ) : List (Pending ι κ) :=
  match e.cause, e.next with
  | .start task op, some next => next.pending task op
  | .reply p _, some next => next.pending p.task p.op
  | _, _ => []

end Event

namespace Run

def tasksAfter (e : Event σ ι κ ρ χ) (r : Run σ ι κ ρ χ) : Nat :=
  match e.cause with
  | .start _ _ => r.tasks + 1
  | _ => r.tasks

def unanswered (e : Event σ ι κ ρ χ) (r : Run σ ι κ ρ χ) : List (Pending ι κ) :=
  match e.cause with
  | .reply p _ => r.waiting.filter (·.task != p.task)
  | _ => r.waiting

def extend (e : Event σ ι κ ρ χ) (r : Run σ ι κ ρ χ) : Run σ ι κ ρ χ where
  state := e.after
  tasks := r.tasksAfter e
  waiting := r.unanswered e ++ e.opened
  history := r.history ++ [e]

def results (task : Nat) (r : Run σ ι κ ρ χ) : List ρ :=
  r.history.filterMap fun e => if e.task? = some task then e.result? else none

def waits (task : Nat) (r : Run σ ι κ ρ χ) : Nat :=
  (r.waiting.map (·.task)).count task

end Run

namespace Actor

def event? (a : Actor σ ι κ ρ χ) (m : Move ι χ) (r : Run σ ι κ ρ χ) :
    Option (Event σ ι κ ρ χ) :=
  match m with
  | .start op => some (.ofTurn (.start r.tasks op) r.state (a.start op r.state))
  | .reply task reply =>
      (r.waiting.find? (·.task == task)).map fun p =>
        .ofTurn (.reply p reply) r.state (a.resume p.awaiting reply r.state)
  | .change c => some (.ofChange c r.state (a.change c r.state))

def step (a : Actor σ ι κ ρ χ) (r : Run σ ι κ ρ χ) (m : Move ι χ) : Run σ ι κ ρ χ :=
  match a.event? m r with
  | some e => r.extend e
  | none => r

def initial (a : Actor σ ι κ ρ χ) : Run σ ι κ ρ χ where
  state := a.fresh

def run (a : Actor σ ι κ ρ χ) (moves : List (Move ι χ)) : Run σ ι κ ρ χ :=
  moves.foldl a.step a.initial

inductive Possible (a : Actor σ ι κ ρ χ) (r : Run σ ι κ ρ χ) : Event σ ι κ ρ χ → Prop
  | start (op : ι) :
      Possible a r (.ofTurn (.start r.tasks op) r.state (a.start op r.state))
  | reply (p : Pending ι κ) (reply : Reply) (hp : p ∈ r.waiting) :
      Possible a r (.ofTurn (.reply p reply) r.state (a.resume p.awaiting reply r.state))
  | change (c : χ) : Possible a r (.ofChange c r.state (a.change c r.state))

variable {a : Actor σ ι κ ρ χ}

theorem possible_of_event? {m : Move ι χ} {r : Run σ ι κ ρ χ} {e : Event σ ι κ ρ χ}
    (h : a.event? m r = some e) : a.Possible r e := by
  cases m with
  | start op =>
      cases h
      exact .start op
  | reply task reply =>
      obtain ⟨p, hp, rfl⟩ := Option.map_eq_some_iff.mp h
      exact .reply p reply (List.mem_of_find?_eq_some hp)
  | change c =>
      cases h
      exact .change c

theorem Possible.before_eq {r : Run σ ι κ ρ χ} {e : Event σ ι κ ρ χ} (h : a.Possible r e) :
    e.before = r.state := by
  cases h <;> rfl

theorem Possible.mem_waiting {r : Run σ ι κ ρ χ} {e : Event σ ι κ ρ χ} (h : a.Possible r e)
    {p : Pending ι κ} {reply : Reply} (hcause : e.cause = .reply p reply) : p ∈ r.waiting := by
  cases h with
  | start op => cases hcause
  | reply q reply' hq =>
      cases hcause
      exact hq
  | change c => cases hcause

theorem run_concat (moves : List (Move ι χ)) (m : Move ι χ) :
    a.run (moves ++ [m]) = a.step (a.run moves) m := by
  simp [run]

theorem run_event {moves : List (Move ι χ)} {m : Move ι χ} {e : Event σ ι κ ρ χ}
    (he : a.event? m (a.run moves) = some e) :
    a.run (moves ++ [m]) = (a.run moves).extend e := by
  rw [run_concat, step, he]

/-- What holds at first and survives every event that a run can go on with holds
throughout every run. -/
theorem run_induction {P : Run σ ι κ ρ χ → Prop} (initial : P a.initial)
    (extend : ∀ moves e, P (a.run moves) → a.Possible (a.run moves) e →
      P ((a.run moves).extend e)) (moves : List (Move ι χ)) :
    P (a.run moves) := by
  induction moves using List.reverseRecOn with
  | nil => exact initial
  | append_singleton moves m ih =>
      rw [run_concat, step]
      cases he : a.event? m (a.run moves) with
      | none => exact ih
      | some e => exact extend moves e ih (possible_of_event? he)

theorem exists_run_before {moves : List (Move ι χ)} {past later : List (Event σ ι κ ρ χ)}
    {e : Event σ ι κ ρ χ} (h : (a.run moves).history = past ++ e :: later) :
    ∃ earlier, (a.run earlier).history = past ∧ a.Possible (a.run earlier) e := by
  induction moves using List.reverseRecOn generalizing later with
  | nil => simp [run, Actor.initial] at h
  | append_singleton moves m ih =>
      rw [run_concat, step] at h
      cases he : a.event? m (a.run moves) with
      | none =>
          rw [he] at h
          exact ih h
      | some e' =>
          simp only [he, Run.extend] at h
          rcases List.eq_nil_or_concat later with rfl | ⟨later, last, rfl⟩
          · obtain ⟨hpast, hlast⟩ := List.append_inj' h rfl
            cases hlast
            exact ⟨moves, hpast, possible_of_event? he⟩
          · rw [List.concat_eq_append, ← List.cons_append, ← List.append_assoc] at h
            exact ih (List.append_inj' h rfl).1

theorem exists_possible_of_mem_history {moves : List (Move ι χ)} {e : Event σ ι κ ρ χ}
    (h : e ∈ (a.run moves).history) : ∃ earlier, a.Possible (a.run earlier) e := by
  obtain ⟨past, later, hsplit⟩ := List.append_of_mem h
  obtain ⟨earlier, -, he⟩ := exists_run_before hsplit
  exact ⟨earlier, he⟩

/-! ## What is under way -/

theorem mem_waiting_extend {r : Run σ ι κ ρ χ} {e : Event σ ι κ ρ χ} {p : Pending ι κ}
    (h : p ∈ (r.extend e).waiting) : p ∈ r.waiting ∨ p ∈ e.opened := by
  rcases List.mem_append.mp h with hold | hnew
  · left
    simp only [Run.unanswered] at hold
    split at hold
    · exact (List.mem_filter.mp hold).1
    · exact hold
  · exact .inr hnew

theorem mem_waiting_extend_of_ne {r : Run σ ι κ ρ χ} {e : Event σ ι κ ρ χ} {p : Pending ι κ}
    (hp : p ∈ r.waiting) (h : e.task? ≠ some p.task) : p ∈ (r.extend e).waiting := by
  refine List.mem_append_left _ ?_
  simp only [Run.unanswered]
  split
  · next q reply hcause =>
      refine List.mem_filter.mpr ⟨hp, ?_⟩
      have hne : q.task ≠ p.task := by simpa [Event.task?, hcause] using h
      simpa using hne.symm
  · exact hp

theorem mem_pending {task : Nat} {op : ι} {next : Next κ ρ} {p : Pending ι κ}
    (h : p ∈ next.pending task op) :
    p.task = task ∧ p.op = op ∧ next = .ask p.request p.awaiting := by
  cases next with
  | ask request awaiting =>
      rw [List.mem_singleton.mp h]
      exact ⟨rfl, rfl, rfl⟩
  | finish result => simp [Next.pending] at h

theorem opened_cases (e : Event σ ι κ ρ χ) : e.opened = [] ∨ ∃ p, e.opened = [p] := by
  simp only [Event.opened]
  split
  · next task op next _ _ => cases next <;> simp [Next.pending]
  · next p _ next _ _ => cases next <;> simp [Next.pending]
  · exact .inl rfl

theorem opened_ofTurn {cause : Cause ι κ χ} {s : σ} {turn : Turn σ κ ρ} {task : Nat}
    (h : (Event.ofTurn cause s turn).task? = some task) :
    ∃ op, (Event.ofTurn cause s turn).opened = turn.next.pending task op := by
  cases cause with
  | start task' op =>
      cases h
      exact ⟨op, rfl⟩
  | reply p reply =>
      cases h
      exact ⟨p.op, rfl⟩
  | change c => cases h

theorem next_of_mem_opened {e : Event σ ι κ ρ χ} {p : Pending ι κ} (h : p ∈ e.opened) :
    e.next = some (.ask p.request p.awaiting) := by
  simp only [Event.opened] at h
  split at h
  · next task op next hcause hnext => rw [hnext, (mem_pending h).2.2]
  · next q reply next hcause hnext => rw [hnext, (mem_pending h).2.2]
  · simp at h

theorem task?_of_mem_opened {e : Event σ ι κ ρ χ} {p : Pending ι κ} (h : p ∈ e.opened) :
    e.task? = some p.task := by
  simp only [Event.opened] at h
  split at h
  · next task op next hcause hnext => rw [Event.task?, hcause, (mem_pending h).1]
  · next q reply next hcause hnext => rw [Event.task?, hcause, (mem_pending h).1]
  · simp at h

theorem Possible.waiting_extend {P : ι → Request → κ → Prop} {r : Run σ ι κ ρ χ}
    {e : Event σ ι κ ρ χ} (he : a.Possible r e)
    (start : ∀ s op request awaiting, (a.start op s).next = .ask request awaiting →
      P op request awaiting)
    (resume : ∀ s op asked request awaiting next reply, P op asked awaiting →
      (a.resume awaiting reply s).next = .ask request next → P op request next)
    (h : ∀ p ∈ r.waiting, P p.op p.request p.awaiting) :
    ∀ p ∈ (r.extend e).waiting, P p.op p.request p.awaiting := by
  intro p hp
  rcases mem_waiting_extend hp with hold | hnew
  · exact h p hold
  · cases he with
    | start op =>
        obtain ⟨-, rfl, hnext⟩ := mem_pending hnew
        exact start _ _ _ _ hnext
    | reply q reply hq =>
        obtain ⟨-, hop, hnext⟩ := mem_pending hnew
        rw [hop]
        exact resume _ _ _ _ _ _ _ (h q hq) hnext
    | change c => simp [Event.opened, Event.ofChange] at hnew

/-! ## Every task waits or is over -/

theorem results_extend (task : Nat) (e : Event σ ι κ ρ χ) (r : Run σ ι κ ρ χ) :
    (r.extend e).results task =
      r.results task ++ if e.task? = some task then e.result?.toList else [] := by
  rw [Run.results, Run.extend, List.filterMap_append, ← Run.results]
  split <;> cases hr : e.result? <;> simp [*]

theorem waits_extend (task : Nat) (e : Event σ ι κ ρ χ) (r : Run σ ι κ ρ χ) :
    (r.extend e).waits task =
      ((r.unanswered e).map (·.task)).count task + (e.opened.map (·.task)).count task := by
  simp [Run.waits, Run.extend]

theorem count_unanswered (task : Nat) (p : Pending ι κ) (waiting : List (Pending ι κ)) :
    ((waiting.filter (·.task != p.task)).map (·.task)).count task =
      if task = p.task then 0 else (waiting.map (·.task)).count task := by
  have hmap : (waiting.filter (·.task != p.task)).map (·.task) =
      (waiting.map (·.task)).filter (· != p.task) := by
    rw [List.filter_map]
    rfl
  rw [hmap]
  split
  · next h => simp [h, List.count_eq_zero]
  · next h => exact List.count_filter (by simpa using h)

theorem result_add_pending (task own : Nat) (op : ι) (next : Next κ ρ) :
    (if own = task then next.result?.toList else []).length +
        ((next.pending own op).map (·.task)).count task =
      if own = task then 1 else 0 := by
  cases next <;> by_cases h : own = task <;> simp [Next.result?, Next.pending, h]

theorem results_add_waits (moves : List (Move ι χ)) (task : Nat) :
    ((a.run moves).results task).length + (a.run moves).waits task =
      if task < (a.run moves).tasks then 1 else 0 := by
  refine run_induction (P := fun r => ∀ task, (r.results task).length + r.waits task =
    if task < r.tasks then 1 else 0) ?_ ?_ moves task
  · intro task
    rfl
  · intro moves e ih he task
    have hold := ih task
    generalize a.run moves = r at *
    rw [results_extend, waits_extend, List.length_append]
    cases he with
    | start op =>
        have hturn := result_add_pending task r.tasks op (a.start op r.state).next
        change _ + _ + (r.waits task + _) = if task < r.tasks + 1 then 1 else 0
        simp only [Event.ofTurn, Event.task?, Event.result?, Event.opened, Option.bind_some,
          Option.some.injEq]
        rcases Nat.lt_trichotomy task r.tasks with ht | rfl | ht
        · simp only [Nat.ne_of_gt ht, ht, Nat.lt_succ_of_lt ht, if_false, if_true] at *
          omega
        · simp only [Nat.lt_irrefl, Nat.lt_succ_self, if_false, if_true] at *
          omega
        · simp only [Nat.ne_of_lt ht, Nat.not_lt_of_gt ht, Nat.not_lt_of_ge ht, if_false] at *
          omega
    | reply p reply hp =>
        have hturn :=
          result_add_pending task p.task p.op (a.resume p.awaiting reply r.state).next
        have hcount := count_unanswered task p r.waiting
        have hwaits : 0 < r.waits p.task :=
          List.count_pos_iff.mpr (List.mem_map_of_mem hp)
        change _ + _ + (((r.waiting.filter (·.task != p.task)).map (·.task)).count task + _) =
          if task < r.tasks then 1 else 0
        simp only [Event.ofTurn, Event.task?, Event.result?, Event.opened, Option.bind_some,
          Option.some.injEq]
        rw [hcount]
        by_cases ht : task = p.task
        · subst ht
          simp only [if_true] at hturn ⊢
          split at hold <;> split <;> omega
        · simp only [Ne.symm ht, ht, if_false] at hturn ⊢
          change _ + _ + (r.waits task + _) = _
          omega
    | change c =>
        change _ + _ + (r.waits task + 0) = if task < r.tasks then 1 else 0
        simpa [Event.ofChange, Event.task?] using hold

theorem nodup_tasks (moves : List (Move ι χ)) :
    ((a.run moves).waiting.map (·.task)).Nodup := by
  rw [List.nodup_iff_count_le_one]
  intro task
  have hcount := results_add_waits (a := a) moves task
  rw [Run.waits] at hcount
  split at hcount <;> omega

theorem eq_of_task_eq {moves : List (Move ι χ)} {p q : Pending ι κ}
    (hp : p ∈ (a.run moves).waiting) (hq : q ∈ (a.run moves).waiting) (h : p.task = q.task) :
    p = q :=
  List.inj_on_of_nodup_map (nodup_tasks moves) hp hq h

theorem event?_reply {moves : List (Move ι χ)} {p : Pending ι κ}
    (hp : p ∈ (a.run moves).waiting) (reply : Reply) :
    a.event? (.reply p.task reply) (a.run moves) =
      some (.ofTurn (.reply p reply) (a.run moves).state
        (a.resume p.awaiting reply (a.run moves).state)) := by
  cases hfind : (a.run moves).waiting.find? (·.task == p.task) with
  | none =>
      have hnone := List.find?_eq_none.mp hfind p hp
      simp at hnone
  | some q =>
      have htask : q.task = p.task := by simpa using List.find?_some hfind
      rw [event?, hfind, eq_of_task_eq (List.mem_of_find?_eq_some hfind) hp htask]
      rfl

def Numbered (r : Run σ ι κ ρ χ) : Prop :=
  (∀ p ∈ r.waiting, p.task < r.tasks) ∧
    ∀ e ∈ r.history, ∀ task, e.task? = some task → task < r.tasks

theorem Numbered.extend {r : Run σ ι κ ρ χ} {e : Event σ ι κ ρ χ} (h : Numbered r)
    (he : a.Possible r e) : Numbered (r.extend e) := by
  have hle : r.tasks ≤ (r.extend e).tasks := by
    simp only [Run.extend, Run.tasksAfter]
    split <;> omega
  have hnew : ∀ task, e.task? = some task → task < (r.extend e).tasks := by
    intro task htask
    cases he with
    | start op =>
        cases htask
        exact Nat.lt_succ_self _
    | reply p reply hp =>
        cases htask
        exact h.1 p hp
    | change c => cases htask
  constructor
  · intro p hp
    rcases mem_waiting_extend hp with hold | hopened
    · exact Nat.lt_of_lt_of_le (h.1 p hold) hle
    · exact hnew p.task (task?_of_mem_opened hopened)
  · intro f hf task htask
    rcases List.mem_append.mp hf with hold | hlast
    · exact Nat.lt_of_lt_of_le (h.2 f hold task htask) hle
    · rw [List.mem_singleton.mp hlast] at htask
      exact hnew task htask

theorem numbered_run (moves : List (Move ι χ)) : Numbered (a.run moves) := by
  refine run_induction ?_ ?_ moves
  · simp [Numbered, initial]
  · intro moves e ih he
    exact ih.extend he

theorem Numbered.waiting_cases {r : Run σ ι κ ρ χ} {e : Event σ ι κ ρ χ} {p : Pending ι κ}
    (h : Numbered r) (he : a.Possible r e) (hp : p ∈ (r.extend e).waiting) :
    (p ∈ r.waiting ∧ e.task? ≠ some p.task) ∨ (p ∈ e.opened ∧ e.task? = some p.task) := by
  rcases List.mem_append.mp hp with hold | hopened
  · left
    cases he with
    | start op =>
        refine ⟨hold, ?_⟩
        intro htask
        have heq : r.tasks = p.task := Option.some.inj htask
        have hlt := h.1 p hold
        omega
    | reply q reply hq =>
        obtain ⟨hmem, hne⟩ := List.mem_filter.mp hold
        refine ⟨hmem, ?_⟩
        intro htask
        have heq : q.task = p.task := Option.some.inj htask
        simp [heq] at hne
    | change c =>
        refine ⟨hold, ?_⟩
        intro htask
        cases htask
  · exact .inr ⟨hopened, task?_of_mem_opened hopened⟩

theorem results_add_waits_of_started {moves : List (Move ι χ)} {e : Event σ ι κ ρ χ}
    {task : Nat} {op : ι} (he : e ∈ (a.run moves).history) (hcause : e.cause = .start task op) :
    ((a.run moves).results task).length + (a.run moves).waits task = 1 := by
  have htask : e.task? = some task := by rw [Event.task?, hcause]
  rw [results_add_waits, if_pos ((numbered_run moves).2 e he task htask)]

/-! ## Components that are out of use -/

def Silent {α : Type} (snapshot : σ → α) (e : Event σ ι κ ρ χ) : Prop :=
  snapshot e.after = snapshot e.before ∧ e.notified = false ∧ e.request? = none

/-- From a change on, whatever is done and whatever arrives, nothing can be seen of a
component any more, and its operations end as `late` says, which knows the history up
to the change. -/
def SilentAfter {α : Type} (a : Actor σ ι κ ρ χ) (snapshot : σ → α) (c : χ)
    (late : List (Event σ ι κ ρ χ) → Event σ ι κ ρ χ → Prop) : Prop :=
  ∀ before after : List (Move ι χ),
    let left := a.run (before ++ [.change c])
    let r := a.run (before ++ .change c :: after)
    snapshot r.state = snapshot left.state ∧
      ∃ later, r.history = left.history ++ later ∧
        ∀ e ∈ later, Silent snapshot e ∧ late left.history e

theorem silentAfter_of_dead {α : Type} {snapshot : σ → α} {c : χ} (dead : σ → Prop)
    {late : List (Event σ ι κ ρ χ) → Event σ ι κ ρ χ → Prop}
    (dies : ∀ s, dead (a.change c s).1)
    (silent : ∀ r e, a.Possible r e → dead r.state → dead e.after ∧ Silent snapshot e)
    (ends : ∀ moves e past later, dead (a.run moves).state →
      (a.run moves).history = past ++ later → (∀ f ∈ later, dead f.before) →
      a.Possible (a.run moves) e → late past e) :
    SilentAfter a snapshot c late := by
  intro before after
  have hleft : dead (a.run (before ++ [.change c])).state := by
    rw [run_concat]
    exact dies _
  -- The state stays dead, so the claim about the events is carried along with it.
  suffices h : ∃ later, (a.run (before ++ .change c :: after)).history =
        (a.run (before ++ [.change c])).history ++ later ∧
      dead (a.run (before ++ .change c :: after)).state ∧
      snapshot (a.run (before ++ .change c :: after)).state =
        snapshot (a.run (before ++ [.change c])).state ∧
      ∀ e ∈ later, dead e.before ∧ Silent snapshot e ∧
        late (a.run (before ++ [.change c])).history e by
    obtain ⟨later, hhistory, -, hsnapshot, hlater⟩ := h
    exact ⟨hsnapshot, later, hhistory, fun e he => (hlater e he).2⟩
  induction after using List.reverseRecOn with
  | nil => exact ⟨[], by simp, hleft, rfl, by simp⟩
  | append_singleton after m ih =>
      obtain ⟨later, hhistory, hdead, hsnapshot, hlater⟩ := ih
      rw [show before ++ .change c :: (after ++ [m]) = before ++ .change c :: after ++ [m] by
        simp, run_concat, step]
      cases he : a.event? m (a.run (before ++ .change c :: after)) with
      | none => exact ⟨later, hhistory, hdead, hsnapshot, hlater⟩
      | some e =>
          have hpossible := possible_of_event? he
          obtain ⟨hafter, hsilent⟩ := silent _ e hpossible hdead
          refine ⟨later ++ [e], ?_, hafter, ?_, ?_⟩
          · simp [Run.extend, hhistory]
          · rw [← hsnapshot, ← hpossible.before_eq]
            exact hsilent.1
          · intro f hf
            rcases List.mem_append.mp hf with hf | hf
            · exact hlater f hf
            · rw [List.mem_singleton.mp hf]
              refine ⟨hpossible.before_eq ▸ hdead, hsilent, ?_⟩
              exact ends _ e _ later hdead hhistory (fun f hf => (hlater f hf).1) hpossible

end Actor

end CodeShelf
