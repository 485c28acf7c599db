import CodeShelf.Proofs.Course
import CodeShelf.Proofs.Store.Bookkeeping

/-!
# Additions

An addition asks the service to create its sample at most once, with the name and the
code as they were given.  It returns a success exactly after the creation succeeded, and
has then asked for one listing; where the creation fails, the store shows that, and
nothing else is left of the addition.
-/

namespace CodeShelf.Store

/-! ## The turns of an addition -/

structure Accepts (name code : String) (s : Store) : Prop where
  name : isBlankText name = false
  code : isBlankText code = false
  live : s.isLive = true
  free : s.view.adding = false

theorem start_of_accepts {name code : String} {s : Store} (h : Accepts name code s) :
    s.start (.addSample name code) =
      ⟨{ s with view := { s.view with adding := true } }, true,
        .ask (.create ⟨name, code⟩) .creation⟩ := by
  simp [start, Draft.check, h.name, h.code, h.live, h.free]

theorem start_of_not_accepts {name code : String} {s : Store} (h : ¬ Accepts name code s) :
    ∃ error, s.start (.addSample name code) = .refuse s (.error error) ∧
      ∀ e, error ≠ .transport e := by
  simp only [start, Draft.check]
  cases hname : isBlankText name with
  | true => exact ⟨_, rfl, by simp [OperationError.ofData]⟩
  | false =>
      cases hcode : isBlankText code with
      | true => exact ⟨_, rfl, by simp [OperationError.ofData]⟩
      | false =>
          cases hlive : s.isLive with
          | false => exact ⟨.detached, rfl, by simp⟩
          | true =>
              cases hfree : s.view.adding with
              | true => exact ⟨.busy .sampleAdd, rfl, by simp⟩
              | false => exact absurd ⟨hname, hcode, hlive, hfree⟩ h

theorem resume_creation_error {s : Store} (live : s.isLive = true) (error : CallError) :
    s.resume .creation (.error error) =
      ⟨{ s with view := { s.view with adding := false, error := some .addFailed } }, true,
        .finish (.error (.transport error))⟩ := by
  rw [resume, if_pos live, resumeLive]

theorem next_resume_refresh (s : Store) (number : Nat) (reply : Reply) :
    (s.resume (.listing number .refresh) reply).next = .finish (.ok .done) := by
  simp only [resume]
  split <;> rfl

/-! ## The course of an addition -/

def claim (task : Nat) (name code : String) (s : Store) : Event :=
  ⟨.start task (.addSample name code), s, { s with view := { s.view with adding := true } },
    true, some (.ask (.create ⟨name, code⟩) .creation)⟩

def creation (task : Nat) (name code : String) : Pending :=
  ⟨task, .addSample name code, .create ⟨name, code⟩, .creation⟩

def refresh (task : Nat) (name code : String) (number : Nat) : Pending :=
  ⟨task, .addSample name code, .listing, .listing number .refresh⟩

inductive AfterClaim (task : Nat) (name code : String) :
    List Event → Next Awaiting Result → Prop
  | asked : AfterClaim task name code [] (.ask (.create ⟨name, code⟩) .creation)
  | failed {s : Store} {error : CallError} (live : s.isLive = true) :
      AfterClaim task name code
        [⟨.reply (creation task name code) (.error error), s,
          { s with view := { s.view with adding := false, error := some .addFailed } }, true,
          some (.finish (.error (.transport error)))⟩]
        (.finish (.error (.transport error)))
  | lost {s : Store} {reply : Reply} :
      AfterClaim task name code
        [⟨.reply (creation task name code) reply, s, s, false,
          some (.finish (.error .detached))⟩]
        (.finish (.error .detached))
  | created {s s' : Store} {body : Json} {number : Nat} :
      AfterClaim task name code
        [⟨.reply (creation task name code) (.ok body), s, s', true,
          some (.ask .listing (.listing number .refresh))⟩]
        (.ask .listing (.listing number .refresh))
  | refreshed {s s' t t' : Store} {body : Json} {number : Nat} {reply : Reply}
      {notified : Bool} :
      AfterClaim task name code
        [⟨.reply (creation task name code) (.ok body), s, s', true,
            some (.ask .listing (.listing number .refresh))⟩,
          ⟨.reply (refresh task name code number) reply, t, t', notified,
            some (.finish (.ok .done))⟩]
        (.finish (.ok .done))

inductive Addition (task : Nat) (name code : String) :
    List Event → Next Awaiting Result → Prop
  | refused {s : Store} {error : OperationError} (refuses : ¬ Accepts name code s)
      (unsent : ∀ e, error ≠ .transport e) :
      Addition task name code
        [⟨.start task (.addSample name code), s, s, false, some (.finish (.error error))⟩]
        (.finish (.error error))
  | claimed {s : Store} {later : List Event} {next : Next Awaiting Result}
      (accepts : Accepts name code s) (after : AfterClaim task name code later next) :
      Addition task name code (claim task name code s :: later) next

theorem AfterClaim.reply {task : Nat} {name code : String} {later : List Event}
    {request : Request} {awaiting : Awaiting}
    (h : AfterClaim task name code later (.ask request awaiting)) (reply : Reply) (s : Store) :
    AfterClaim task name code
      (later ++ [.ofTurn (.reply ⟨task, .addSample name code, request, awaiting⟩ reply) s
        (s.resume awaiting reply)])
      (s.resume awaiting reply).next := by
  cases h with
  | asked =>
      cases hlive : s.isLive with
      | false =>
          rw [resume_of_not_isLive .creation reply hlive]
          exact .lost
      | true =>
          cases reply with
          | error error =>
              rw [resume_creation_error hlive error]
              exact .failed hlive
          | ok body =>
              obtain ⟨s', hcreated⟩ := resume_creation_ok hlive body
              rw [hcreated]
              exact .created
  | @created s₀ s' body number =>
      rw [Event.ofTurn, next_resume_refresh s number reply]
      exact .refreshed

theorem addition_of_course {task : Nat} {name code : String} {events : History}
    {next : Next Awaiting Result}
    (h : actor.Course task (.addSample name code) events next) :
    Addition task name code events next := by
  induction h with
  | start s =>
      by_cases haccepts : Accepts name code s
      · have hturn : actor.start (.addSample name code) s = _ := start_of_accepts haccepts
        rw [hturn]
        exact .claimed haccepts .asked
      · obtain ⟨error, hrefuse, hunsent⟩ := start_of_not_accepts haccepts
        have hturn : actor.start (.addSample name code) s = _ := hrefuse
        rw [hturn]
        exact .refused haccepts hunsent
  | reply before reply s ih =>
      cases ih with
      | claimed accepts after => exact .claimed accepts (after.reply reply s)

/-! ## What additions do -/

theorem adding_of_creation {moves : List Move} {e : Event}
    (he : e ∈ (actor.run moves).history) {p : Pending} {reply : Reply}
    (hcause : e.cause = .reply p reply) (hcreate : p.request.isCreate = true)
    (hlive : e.before.isLive = true) : e.before.view.adding = true := by
  obtain ⟨earlier, hpossible⟩ := Actor.exists_possible_of_mem_history he
  have hbalance := inBalance_run earlier
  have hpositive : 0 < (actor.run earlier).underWay Request.isCreate :=
    List.countP_pos_iff.mpr ⟨p, hpossible.mem_waiting hcause, hcreate⟩
  have hsingle := hbalance.single
  rw [hpossible.before_eq] at hlive ⊢
  exact (hbalance.adding hlive).mpr (by omega)

/-- What a task that adds a sample does, in whatever order everything happens. -/
structure AddsOnce (r : Run) (task : Nat) (name code : String) : Prop where
  creates : (r.requests task).countP Request.isCreate ≤ 1
  body : ∀ request ∈ r.requests task, request.isCreate = true →
    request.call =
      .post "/code/db_content" (.obj [("name", .str name), ("code", .str code)])
  accepted_iff : ∀ e ∈ r.story task, e.cause = .start task (.addSample name code) →
    (e.request?.isSome = true ↔ Accepts name code e.before)
  rejected : (∃ error, .error (.validation error) ∈ r.results task) ∨
      (∃ slot, .error (.busy slot) ∈ r.results task) ∨
      (∃ e ∈ r.story task, e.cause = .start task (.addSample name code) ∧
        e.result? = some (.error .detached)) →
    r.requests task = [] ∧ ∀ e ∈ r.story task, e.after = e.before ∧ e.notified = false
  added : ∀ answer, .ok answer ∈ r.results task →
    r.requests task = [.create ⟨name, code⟩, .listing] ∧
      ∃ e ∈ r.story task, ∃ p body, e.cause = .reply p (.ok body) ∧
        p.request = .create ⟨name, code⟩ ∧ e.request? = some .listing
  failed : ∀ error, .error (.transport error) ∈ r.results task →
    r.requests task = [.create ⟨name, code⟩] ∧
      ∃ first last p, r.story task = [first, last] ∧ last.cause = .reply p (.error error) ∧
        p.request = .create ⟨name, code⟩ ∧
        first.before.view.adding = false ∧
        first.after = { first.before with view := { first.before.view with adding := true } } ∧
        last.before.view.adding = true ∧
        last.after = { last.before with view :=
          { last.before.view with adding := false, error := some .addFailed } }

namespace AfterClaim

variable {task : Nat} {name code : String} {later : List Event} {next : Next Awaiting Result}

theorem requests (h : AfterClaim task name code later next) :
    later.filterMap Event.request? = [] ∨ later.filterMap Event.request? = [.listing] := by
  cases h with
  | asked => exact .inl rfl
  | failed live => exact .inl rfl
  | lost => exact .inl rfl
  | created => exact .inr rfl
  | refreshed => exact .inr rfl

theorem not_start (h : AfterClaim task name code later next) :
    ∀ e ∈ later, ∀ task op, e.cause ≠ .start task op := by
  cases h <;> simp

theorem not_local (h : AfterClaim task name code later next) :
    (∀ error, next.result? ≠ some (.error (.validation error))) ∧
      ∀ slot, next.result? ≠ some (.error (.busy slot)) := by
  cases h <;> simp [Next.result?]

end AfterClaim

theorem Addition.addsOnce {r : Run} {task : Nat} {name code : String} {events : History}
    {next : Next Awaiting Result} (h : Addition task name code events next)
    (story : r.story task = events) (results : r.results task = next.result?.toList)
    (adding : ∀ e ∈ events, ∀ p reply, e.cause = .reply p reply →
      p.request.isCreate = true → e.before.isLive = true → e.before.view.adding = true) :
    AddsOnce r task name code := by
  cases h with
  | refused refuses unsent =>
      have hnone : r.requests task = [] := by
        rw [Run.requests, story]
        rfl
      refine ⟨by simp [hnone], by simp [hnone], ?_, ?_, ?_, ?_⟩
      · simp [story, Event.request?, Next.request?, refuses]
      · simp [story, hnone]
      · simp [results, Next.result?]
      · simp [results, Next.result?, Ne.symm (unsent _)]
  | @claimed s later next accepts after =>
      have hrequests : r.requests task =
          .create ⟨name, code⟩ :: later.filterMap Event.request? := by
        rw [Run.requests, story]
        rfl
      refine ⟨?_, ?_, ?_, ?_, ?_, ?_⟩
      · rcases after.requests with hnone | hlisting <;>
          simp [*, List.countP_cons, Request.isCreate]
      · rcases after.requests with hnone | hlisting <;>
          simp [*, Request.isCreate, Request.call, Draft.toJson, Path.samples]
      · intro e he hcause
        rw [story] at he
        rcases List.mem_cons.mp he with rfl | hlater
        · simp [claim, Event.request?, Next.request?, accepts]
        · exact absurd hcause (after.not_start e hlater _ _)
      · have hmem : ∀ result, result ∈ r.results task → next.result? = some result := by
          simp [results]
        rintro (⟨error, herror⟩ | ⟨slot, hslot⟩ | ⟨e, he, hcause, hresult⟩)
        · exact absurd (hmem _ herror) (after.not_local.1 error)
        · exact absurd (hmem _ hslot) (after.not_local.2 slot)
        · rw [story] at he
          rcases List.mem_cons.mp he with rfl | hlater
          · cases hresult
          · exact absurd hcause (after.not_start e hlater _ _)
      · intro answer hanswer
        cases after with
        | refreshed =>
            refine ⟨hrequests, ?_⟩
            rw [story]
            exact ⟨_, List.mem_cons_of_mem _ List.mem_cons_self, _, _, rfl, rfl, rfl⟩
        | _ => simp [results, Next.result?] at hanswer
      · intro error herror
        cases after with
        | failed live =>
            obtain rfl : error = _ := by simpa [results, Next.result?] using herror
            refine ⟨hrequests, _, _, _, story, rfl, rfl, accepts.free, rfl, ?_, rfl⟩
            exact adding _ (List.mem_cons_of_mem _ List.mem_cons_self) _ _ rfl rfl live
        | _ => simp [results, Next.result?] at herror

/-- Creations are neither lost nor made twice.  In every interleaving, a task that adds a
sample sends at most one creation, of the name and the code as given; it sends none and
leaves no trace where it is turned away; a success means one creation that succeeded and
then one listing; and a failed call means one creation that failed, after which the store
is as before but for the error. -/
theorem additions_create_once (moves : List Move) (task : Nat) (name code : String)
    (h : ∃ e ∈ (actor.run moves).history, e.cause = .start task (.addSample name code)) :
    AddsOnce (actor.run moves) task name code := by
  obtain ⟨next, hcourse, hresults⟩ := Actor.exists_course h
  refine (addition_of_course hcourse).addsOnce rfl hresults ?_
  intro e he p reply
  exact adding_of_creation (Run.mem_history_of_mem_story he)

/-- Three additions: the second comes while the first is being created, and the creation
of the third fails while the listing of the first is under way. -/
def overlappingAdditions : List Move :=
  [.start (.addSample "loop" "+[]"), .start (.addSample "step" "+"), .reply 0 (.ok .null),
    .start (.addSample "step" "+"), .reply 2 (.error ⟨some 500, "down"⟩),
    .reply 0 (.ok (.arr []))]

theorem additions_create_once_overlapping :
    let r := actor.run overlappingAdditions
    r.results 0 = [.ok .done] ∧ AddsOnce r 0 "loop" "+[]" ∧
      r.results 1 = [.error (.busy .sampleAdd)] ∧ AddsOnce r 1 "step" "+" ∧
      r.results 2 = [.error (.transport ⟨some 500, "down"⟩)] ∧ AddsOnce r 2 "step" "+" := by
  refine ⟨rfl, ?_, rfl, ?_, rfl, ?_⟩
  · exact additions_create_once _ 0 _ _ ⟨_, List.mem_of_getElem? (i := 0) rfl, rfl⟩
  · exact additions_create_once _ 1 _ _ ⟨_, List.mem_of_getElem? (i := 1) rfl, rfl⟩
  · exact additions_create_once _ 2 _ _ ⟨_, List.mem_of_getElem? (i := 3) rfl, rfl⟩

end CodeShelf.Store
