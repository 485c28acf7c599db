import CodeShelf.Execution
import Mathlib.Algebra.Group.Nat.Even
import Mathlib.Data.List.Induction

/-!
# Histories of execution requests

A request is edited, submitted and resolved in any order, and some of the submits and
resolves are rejected.  The history of what was done and returned tells the request: its
text is that of the latest edit, and its status follows from the latest submit or resolve
that was accepted and from the edits after it.
-/

namespace CodeShelf.Execution

/-! ## One operation -/

structure Step where
  operation : Operation
  before : Execution
  after : Execution
  result : Result
  deriving DecidableEq, Repr

def step (op : Operation) (e : Execution) : Step :=
  ⟨op, e, (e.perform op).1, (e.perform op).2⟩

inductive Possible (e : Execution) : Step → Prop
  | edit (text : String) :
      Possible e ⟨.edit text, e, e.edit text, .edited (e.editChanges text)⟩
  | submit (h : e.status ≠ .pending) :
      Possible e ⟨.submit, e, { e with submitted := some e.source, status := .pending },
        .submitted e.source⟩
  | submitRejected (h : e.status = .pending) :
      Possible e ⟨.submit, e, e, .refused .executionPending⟩
  | resolve (output : Option String) (h : e.status = .pending) :
      Possible e ⟨.resolve output, e, { e with status := outcome output }, .resolved true⟩
  | resolveRejected (output : Option String) (h : e.status ≠ .pending) :
      Possible e ⟨.resolve output, e, e, .resolved false⟩

theorem possible_step (op : Operation) (e : Execution) : Possible e (e.step op) := by
  cases op with
  | edit text => exact .edit text
  | submit =>
      by_cases h : e.status = .pending
      · simp only [step, perform, submit_eq_error h]
        exact .submitRejected h
      · simp only [step, perform, submit_eq_ok h]
        exact .submit h
  | resolve output =>
      by_cases h : e.status = .pending
      · simp only [step, perform, resolve_eq_some h]
        exact .resolve output h
      · simp only [step, perform, resolve_eq_none h]
        exact .resolveRejected output h

inductive Accepted where
  | submission (payload : String)
  | resolution (output : Option String)
  deriving DecidableEq, Repr

namespace Accepted

def isSubmission : Accepted → Bool
  | submission _ => true
  | resolution _ => false

def payload? : Accepted → Option String
  | submission payload => some payload
  | resolution _ => none

def status : Accepted → ExecutionStatus
  | submission _ => .pending
  | resolution (some output) => .succeeded output
  | resolution none => .failed "Error executing code. Please try again."

theorem status_resolution (output : Option String) :
    (resolution output).status = outcome output := by
  cases output <;> rfl

theorem status_eq_pending_iff {a : Accepted} :
    a.status = .pending ↔ a.isSubmission = true := by
  rcases a with payload | (_ | output) <;> simp [status, isSubmission]

end Accepted

namespace Step

def accepted? (x : Step) : Option Accepted :=
  match x.operation, x.result with
  | .submit, .submitted payload => some (.submission payload)
  | .resolve output, .resolved true => some (.resolution output)
  | _, _ => none

def edited? (x : Step) : Option String :=
  match x.operation with
  | .edit text => some text
  | _ => none

def isEdit (x : Step) : Bool :=
  x.edited?.isSome

/-- How a step answers: an edit says whether it changed the request, a submit is accepted
exactly if nothing is pending and a resolve exactly if something is, and what is rejected
changes nothing. -/
structure Answers (x : Step) : Prop where
  edit : ∀ text, x.operation = .edit text →
    ∃ changed, x.result = .edited changed ∧ (changed = true ↔ x.after ≠ x.before)
  submit : x.operation = .submit →
    (x.accepted?.isSome = true ↔ x.before.status ≠ .pending)
  resolve : ∀ output, x.operation = .resolve output →
    (x.accepted?.isSome = true ↔ x.before.status = .pending)
  rejected : x.accepted? = none → x.isEdit = false → x.after = x.before

end Step

theorem Possible.answers {e : Execution} {x : Step} (h : Possible e x) : x.Answers := by
  cases h with
  | edit text =>
      refine ⟨?_, nofun, nofun, nofun⟩
      intro text' hop
      cases hop
      exact ⟨_, rfl, editChanges_iff text e⟩
  | submit h => exact ⟨nofun, fun _ => by simp [Step.accepted?, h], nofun, nofun⟩
  | submitRejected h => exact ⟨nofun, fun _ => by simp [Step.accepted?, h], nofun, fun _ _ => rfl⟩
  | resolve output h => exact ⟨nofun, nofun, fun _ _ => by simp [Step.accepted?, h], nofun⟩
  | resolveRejected output h =>
      exact ⟨nofun, nofun, fun _ _ => by simp [Step.accepted?, h], fun _ _ => rfl⟩

/-! ## Histories -/

def after (e : Execution) (ops : List Operation) : Execution :=
  ops.foldl (fun e op => (e.perform op).1) e

def history : Execution → List Operation → List Step
  | _, [] => []
  | e, op :: ops => e.step op :: history (e.perform op).1 ops

theorem after_concat (e : Execution) (ops : List Operation) (op : Operation) :
    e.after (ops ++ [op]) = ((e.after ops).step op).after := by
  simp [after, step]

theorem history_concat (e : Execution) (ops : List Operation) (op : Operation) :
    e.history (ops ++ [op]) = e.history ops ++ [(e.after ops).step op] := by
  induction ops generalizing e with
  | nil => rfl
  | cons first ops ih =>
      rw [List.cons_append, history, ih]
      rfl

theorem exists_before {e : Execution} {ops : List Operation} {past later : List Step} {x : Step}
    (h : e.history ops = past ++ x :: later) :
    ∃ earlier, e.history earlier = past ∧ Possible (e.after earlier) x := by
  induction ops generalizing e past with
  | nil => simp [history] at h
  | cons first ops ih =>
      cases past with
      | nil =>
          cases h
          exact ⟨[], rfl, possible_step first e⟩
      | cons y past =>
          obtain ⟨rfl, htail⟩ := List.cons.inj h
          obtain ⟨earlier, rfl, hpossible⟩ := ih htail
          exact ⟨first :: earlier, rfl, hpossible⟩

def accepted (h : List Step) : List Accepted :=
  h.filterMap Step.accepted?

def payloads (h : List Step) : List String :=
  (accepted h).filterMap Accepted.payload?

def textOf (source : String) (h : List Step) : String :=
  (h.filterMap Step.edited?).getLast?.getD source

theorem accepted_concat (h : List Step) (x : Step) :
    accepted (h ++ [x]) = accepted h ++ x.accepted?.toList := by
  rw [accepted, List.filterMap_append]
  cases hx : x.accepted? <;> simp [accepted, hx]

theorem textOf_concat (source : String) (h : List Step) (x : Step) :
    textOf source (h ++ [x]) = x.edited?.getD (textOf source h) := by
  rw [textOf, List.filterMap_append]
  cases hx : x.edited? <;> simp [textOf, hx]

def Alternating (as : List Accepted) : Prop :=
  ∀ (i : Nat) (a : Accepted), as[i]? = some a → (a.isSubmission = true ↔ Even i)

theorem Alternating.concat {as : List Accepted} {a : Accepted} (h : Alternating as)
    (ha : a.isSubmission = true ↔ Even as.length) : Alternating (as ++ [a]) := by
  intro i b hb
  rcases Nat.lt_trichotomy i as.length with hi | rfl | hi
  · rw [List.getElem?_append_left hi] at hb
    exact h i b hb
  · rw [List.getElem?_concat_length] at hb
    cases hb
    exact ha
  · rw [List.getElem?_eq_none (by simpa using Nat.succ_le_of_lt hi)] at hb
    cases hb

/-- The latest submission or resolution of a history, with the steps after it. -/
def Latest (h : List Step) (a : Accepted) (later : List Step) : Prop :=
  ∃ past x, h = past ++ x :: later ∧ x.accepted? = some a ∧ ∀ y ∈ later, y.accepted? = none

theorem split_concat {h past later : List Step} {x y : Step}
    (hsplit : h ++ [y] = past ++ x :: later) :
    (past = h ∧ x = y ∧ later = []) ∨ ∃ rest, later = rest ++ [y] ∧ h = past ++ x :: rest := by
  rcases List.eq_nil_or_concat later with rfl | ⟨rest, last, rfl⟩
  · obtain ⟨rfl, hlast⟩ := List.append_inj' hsplit rfl
    cases hlast
    exact .inl ⟨rfl, rfl, rfl⟩
  · rw [List.concat_eq_append, ← List.cons_append, ← List.append_assoc] at hsplit
    obtain ⟨hfront, hlast⟩ := List.append_inj' hsplit rfl
    cases hlast
    exact .inr ⟨rest, List.concat_eq_append, hfront⟩

theorem latest_concat {h later : List Step} {x : Step} {a : Accepted}
    (hlatest : Latest (h ++ [x]) a later) :
    (x.accepted? = some a ∧ later = []) ∨
      (x.accepted? = none ∧ ∃ rest, later = rest ++ [x] ∧ Latest h a rest) := by
  obtain ⟨past, y, hsplit, hy, hlater⟩ := hlatest
  rcases split_concat hsplit with ⟨-, rfl, rfl⟩ | ⟨rest, rfl, hfront⟩
  · exact .inl ⟨hy, rfl⟩
  · refine .inr ⟨hlater x (by simp), rest, rfl, past, y, hfront, hy, ?_⟩
    intro z hz
    exact hlater z (List.mem_append_left _ hz)

theorem exists_latest {h : List Step} (hne : accepted h ≠ []) : ∃ a later, Latest h a later := by
  induction h using List.reverseRecOn with
  | nil => exact absurd rfl hne
  | append_singleton h x ih =>
      cases hx : x.accepted? with
      | some a => exact ⟨a, [], h, x, rfl, hx, by simp⟩
      | none =>
          rw [accepted_concat, hx, Option.toList_none, List.append_nil] at hne
          obtain ⟨a, later, past, y, rfl, hy, hlater⟩ := ih hne
          refine ⟨a, later ++ [x], past, y, by simp, hy, ?_⟩
          simpa [or_imp, forall_and, hx] using hlater

/-! ## The request that a history tells -/

def statusAfter : Accepted → List Step → ExecutionStatus
  | .submission _, _ => .pending
  | .resolution output, later =>
      if later.any Step.isEdit then .idle else (Accepted.resolution output).status

theorem statusAfter_nil (a : Accepted) : statusAfter a [] = a.status := by
  cases a <;> rfl

theorem statusAfter_eq_pending_iff {a : Accepted} {later : List Step} :
    statusAfter a later = .pending ↔ a.isSubmission = true := by
  cases a with
  | submission payload => simp [statusAfter, Accepted.isSubmission]
  | resolution output =>
      simp only [statusAfter]
      split
      · simp [Accepted.isSubmission]
      · exact Accepted.status_eq_pending_iff

theorem statusAfter_concat (a : Accepted) (later : List Step) (x : Step) :
    statusAfter a (later ++ [x]) =
      if x.isEdit = true ∧ (statusAfter a later).isTerminal = true then .idle
      else statusAfter a later := by
  rcases a with payload | (_ | output) <;> cases hx : x.isEdit <;>
    cases hlater : later.any Step.isEdit <;>
    simp [statusAfter, Accepted.status, ExecutionStatus.isTerminal, hx, hlater]

structure Told (source : String) (h : List Step) (e : Execution) : Prop where
  text : e.source = textOf source h
  submitted : e.submitted = (payloads h).getLast?
  alternating : Alternating (accepted h)
  pending_iff : e.status = .pending ↔ ¬ Even (accepted h).length
  latest : ∀ a later, Latest h a later → e.status = statusAfter a later
  untouched : accepted h = [] → e.status = .idle

namespace Told

variable {source : String} {h : List Step} {e : Execution} {x : Step}

theorem keep (told : Told source h e) {e' : Execution} (haccepted : x.accepted? = none)
    (htext : e'.source = x.edited?.getD e.source) (hsubmitted : e'.submitted = e.submitted)
    (hstatus : e'.status =
      if x.isEdit = true ∧ e.status.isTerminal = true then .idle else e.status) :
    Told source (h ++ [x]) e' := by
  have hsame : accepted (h ++ [x]) = accepted h := by simp [accepted_concat, haccepted]
  constructor
  case text => rw [htext, textOf_concat, told.text]
  case submitted => rw [hsubmitted, payloads, hsame, told.submitted, payloads]
  case alternating => exact hsame ▸ told.alternating
  case pending_iff =>
    rw [hsame, ← told.pending_iff, hstatus]
    split
    · next hedit =>
        have hne : e.status ≠ .pending := by
          intro hpending
          simp [hpending, ExecutionStatus.isTerminal] at hedit
        simp [hne]
    · rfl
  case latest =>
    intro a later hlatest
    rcases latest_concat hlatest with ⟨ha, -⟩ | ⟨-, rest, rfl, hrest⟩
    · simp [haccepted] at ha
    · rw [statusAfter_concat, ← told.latest a rest hrest]
      exact hstatus
  case untouched =>
    intro hnone
    rw [hstatus, told.untouched (hsame ▸ hnone)]
    simp

theorem accept (told : Told source h e) {a : Accepted} (haccepted : x.accepted? = some a)
    (hedited : x.edited? = none) (hturn : a.isSubmission = true ↔ e.status ≠ .pending) :
    Told source (h ++ [x])
      { e with submitted := a.payload?.or e.submitted, status := a.status } := by
  have hmore : accepted (h ++ [x]) = accepted h ++ [a] := by simp [accepted_concat, haccepted]
  -- The number of those accepted so far says whose turn it is.
  have heven : a.isSubmission = true ↔ Even (accepted h).length := by
    rw [hturn, Ne, told.pending_iff, not_not]
  constructor
  case text =>
    rw [textOf_concat, hedited]
    exact told.text
  case submitted =>
    rw [payloads, hmore, List.filterMap_append, told.submitted]
    cases hpayload : a.payload? <;> simp [payloads, hpayload]
  case alternating => exact hmore ▸ told.alternating.concat heven
  case pending_iff =>
    rw [hmore, List.length_append, List.length_singleton, Nat.even_add_one, not_not, ← heven]
    exact Accepted.status_eq_pending_iff
  case latest =>
    intro b later hlatest
    rcases latest_concat hlatest with ⟨hb, rfl⟩ | ⟨hnone, -⟩
    · cases haccepted.symm.trans hb
      exact (statusAfter_nil a).symm
    · simp [haccepted] at hnone
  case untouched => simp [hmore]

theorem extend (told : Told source h e) (hx : Possible e x) : Told source (h ++ [x]) x.after := by
  cases hx with
  | edit text => exact told.keep rfl rfl rfl (by simp [edit, Step.isEdit, Step.edited?])
  | submit hp =>
      exact told.accept (a := .submission e.source) rfl rfl (by simp [Accepted.isSubmission, hp])
  | submitRejected hp => exact told.keep rfl rfl rfl (by simp [Step.isEdit, Step.edited?])
  | resolve output hp =>
      rw [← Accepted.status_resolution]
      exact told.accept (a := .resolution output) rfl rfl (by simp [Accepted.isSubmission, hp])
  | resolveRejected output hp => exact told.keep rfl rfl rfl (by simp [Step.isEdit, Step.edited?])

theorem pending_iff_latest (told : Told source h e) :
    e.status = .pending ↔ ∃ payload later, Latest h (.submission payload) later := by
  constructor
  · intro hpending
    have hne : accepted h ≠ [] := by
      intro hnone
      cases hpending.symm.trans (told.untouched hnone)
    obtain ⟨a, later, hlatest⟩ := exists_latest hne
    have hstatus := hpending.symm.trans (told.latest a later hlatest)
    cases a with
    | submission payload => exact ⟨payload, later, hlatest⟩
    | resolution output => cases statusAfter_eq_pending_iff.mp hstatus.symm
  · rintro ⟨payload, later, hlatest⟩
    exact told.latest _ later hlatest

end Told

theorem told_history (source : String) (ops : List Operation) :
    Told source (history { source } ops) (after { source } ops) := by
  -- The last operation is split off, since `Told` looks back on everything before it.
  induction ops using List.reverseRecOn with
  | nil =>
      refine ⟨rfl, rfl, ?_, ?_, ?_, fun _ => rfl⟩
      · simp [Alternating, accepted, history]
      · simp [accepted, history, after]
      · rintro a later ⟨past, x, hsplit, -⟩
        simp [history] at hsplit
  | append_singleton ops op ih =>
      rw [history_concat, after_concat]
      exact ih.extend (possible_step op _)

theorem payload_eq_textOf {source : String} {ops : List Operation} {past later : List Step}
    {x : Step} {payload : String} (hsplit : history { source } ops = past ++ x :: later)
    (hx : x.accepted? = some (.submission payload)) : payload = textOf source past := by
  obtain ⟨earlier, rfl, hpossible⟩ := exists_before hsplit
  rw [← (told_history source earlier).text]
  cases hpossible with
  | submit =>
      cases hx
      rfl
  | edit | submitRejected | resolve | resolveRejected => cases hx

theorem answers_of_mem_history {e : Execution} {ops : List Operation} {x : Step}
    (hx : x ∈ e.history ops) : x.Answers := by
  obtain ⟨past, later, hsplit⟩ := List.append_of_mem hx
  obtain ⟨earlier, -, hpossible⟩ := exists_before hsplit
  exact hpossible.answers

/-- The request after any operations is what their history tells.  Accepted submits and
resolves alternate; an accepted submit returns the text of the latest edit, and the
submitted text is that of the latest of them; the status is pending exactly if a submit
was accepted last, and otherwise it is what the last resolve brought, until an edit takes
it away; and every step answers as `Answers` says. -/
theorem history_tells_request (source : String) (ops : List Operation) :
    let e := after { source } ops
    let h := history { source } ops
    Alternating (accepted h) ∧
    (∀ past x later payload, h = past ++ x :: later →
      x.accepted? = some (.submission payload) → payload = textOf source past) ∧
    e.source = textOf source h ∧
    e.submitted = (payloads h).getLast? ∧
    (e.status = .pending ↔ ∃ payload later, Latest h (.submission payload) later) ∧
    (∀ output later, Latest h (.resolution output) later →
      e.status = if later.any Step.isEdit then .idle else (Accepted.resolution output).status) ∧
    (accepted h = [] → e.status = .idle) ∧
    (∀ x ∈ h, x.Answers) := by
  intro e h
  have told : Told source h e := told_history source ops
  refine ⟨told.alternating, ?_, told.text, told.submitted, told.pending_iff_latest, ?_,
    told.untouched, ?_⟩
  · intro past x later payload hsplit hx
    exact payload_eq_textOf hsplit hx
  · intro output later hlatest
    exact told.latest _ later hlatest
  · intro x hx
    exact answers_of_mem_history hx

end CodeShelf.Execution
