import CodeShelf.Proofs.Store.Addition
import CodeShelf.Proofs.Store.Notices

/-!
# The ledger of listings

Every listing that a store asks for has one of three reasons: a call of `fetchAll` on the
store in use, the one attachment that found the store as it was created, or an addition
whose sample was created while the store was in use.  Each reason accounts for exactly one
listing, and no other attachment leaves a trace.
-/

namespace CodeShelf

namespace Actor

variable {σ ι κ ρ χ : Type} {a : Actor σ ι κ ρ χ}

theorem Course.exists_start {task : Nat} {op : ι} {events : List (Event σ ι κ ρ χ)}
    {next : Next κ ρ} (h : a.Course task op events next) :
    ∃ e ∈ events, e.cause = .start task op := by
  induction h with
  | start s => exact ⟨_, List.mem_cons_self, rfl⟩
  | reply before reply s ih =>
      obtain ⟨e, he, hcause⟩ := ih
      exact ⟨e, List.mem_append_left _ he, hcause⟩

theorem Course.op_of_reply {task : Nat} {op : ι} {events : List (Event σ ι κ ρ χ)}
    {next : Next κ ρ} (h : a.Course task op events next) {e : Event σ ι κ ρ χ}
    (he : e ∈ events) {p : Pending ι κ} {reply : Reply} (hcause : e.cause = .reply p reply) :
    p.op = op := by
  induction h with
  | start s =>
      rw [List.mem_singleton.mp he] at hcause
      cases hcause
  | reply before reply s ih =>
      rcases List.mem_append.mp he with hold | hlast
      · exact ih hold
      · rw [List.mem_singleton.mp hlast] at hcause
        cases hcause
        rfl

theorem exists_start_of_reply {moves : List (Move ι χ)} {e : Event σ ι κ ρ χ}
    (he : e ∈ (a.run moves).history) {p : Pending ι κ} {reply : Reply}
    (hcause : e.cause = .reply p reply) :
    ∃ f ∈ (a.run moves).history, f.cause = .start p.task p.op := by
  have htask : e.task? = some p.task := by rw [Event.task?, hcause]
  obtain ⟨op, next, hcourse, -⟩ :=
    onCourse_run moves p.task ((numbered_run moves).2 e he p.task htask)
  have hmem : e ∈ (a.run moves).story p.task := List.mem_filter.mpr ⟨he, by simpa using htask⟩
  obtain ⟨f, hf, hstart⟩ := hcourse.exists_start
  rw [hcourse.op_of_reply hmem hcause]
  exact ⟨f, Run.mem_history_of_mem_story hf, hstart⟩

end Actor

namespace Store

/-! ## The reasons for a listing -/

def asksListing (e : Event) : Bool :=
  e.request? == some .listing

def fetchesLive (e : Event) : Bool :=
  match e.cause with
  | .start _ .fetchAll => e.before.isLive
  | _ => false

def isAttachment (e : Event) : Bool :=
  match e.cause with
  | .start _ .attach => true
  | _ => false

def attachesCreated (e : Event) : Bool :=
  isAttachment e && decide (e.before.view.lifecycle = .created)

def addedTask? (e : Event) : Option Nat :=
  match e.cause with
  | .reply ⟨task, _, .create _, _⟩ (.ok _) => if e.before.isLive then some task else none
  | _ => none

def addedTasks (h : History) : List Nat :=
  h.filterMap addedTask?

/-- An event asks for as many listings as it has reasons to. -/
def Accounted (e : Event) : Prop :=
  (asksListing e).toNat =
    (fetchesLive e).toNat + (attachesCreated e).toNat + (addedTask? e).toList.length

theorem accounted_start (task : Nat) (op : Operation) (s : Store) :
    Accounted (.ofTurn (.start task op) s (s.start op)) := by
  unfold Accounted asksListing fetchesLive attachesCreated isAttachment addedTask?
  cases op with
  | attach =>
      by_cases h : s.view.lifecycle = .created
      · have hlive : isLive { s with view := { s.view with lifecycle := .attached } } = true := rfl
        simp [Event.ofTurn, Event.request?, start, h, issueListing_of_isLive .fetch hlive,
          Next.request?]
      · simp [Event.ofTurn, Event.request?, start, h, Turn.refuse, Next.request?]
  | fetchAll =>
      cases h : s.isLive with
      | true =>
          simp [Event.ofTurn, Event.request?, start, h, issueListing_of_isLive .fetch h,
            Next.request?]
      | false =>
          simp [Event.ofTurn, Event.request?, start, h, issueListing_of_not_isLive .fetch h,
            Turn.refuse, Next.request?]
  | fetchContent name =>
      simp only [start]
      split <;> rfl
  | addSample name code =>
      simp only [start]
      split
      · rfl
      · split
        · split <;> rfl
        · rfl

theorem accounted_creation (task : Nat) (op : Operation) (draft : Draft) (reply : Reply)
    (s : Store) :
    Accounted (.ofTurn (.reply ⟨task, op, .create draft, .creation⟩ reply) s
      (s.resume .creation reply)) := by
  cases hlive : s.isLive with
  | false =>
      rw [resume_of_not_isLive .creation reply hlive]
      cases reply <;> simp [Accounted, asksListing, fetchesLive, attachesCreated, isAttachment,
        addedTask?, Event.ofTurn, Event.request?, hlive, Turn.refuse, Next.request?]
  | true =>
      cases reply with
      | error e =>
          rw [resume_creation_error hlive]
          rfl
      | ok body =>
          obtain ⟨s', hturn⟩ := resume_creation_ok hlive body
          rw [hturn]
          simp [Accounted, asksListing, fetchesLive, attachesCreated, isAttachment, addedTask?,
            Event.ofTurn, Event.request?, hlive, Next.request?]

theorem accounted_reply {p : Pending} (fits : Fits p.op p.request p.awaiting) (reply : Reply)
    (s : Store) : Accounted (.ofTurn (.reply p reply) s (s.resume p.awaiting reply)) := by
  by_cases hcreation : p.awaiting = .creation
  · obtain ⟨task, op, request, awaiting⟩ := p
    subst hcreation
    obtain ⟨-, -, draft, -, rfl, -⟩ := fits
    exact accounted_creation task op draft reply s
  · -- No other answer leads to a listing: the id of a sample leads to its content.
    have hasks : asksListing (.ofTurn (.reply p reply) s (s.resume p.awaiting reply)) = false := by
      rw [asksListing, beq_eq_false_iff_ne]
      intro hlisting
      obtain ⟨next, hnext⟩ := Event.next_of_request? hlisting
      rcases next_resume hnext with ⟨-, ⟨name, -, rfl⟩ | ⟨body, number, hawaiting, -⟩⟩
      · obtain ⟨name, id, hcontent, -⟩ := fits_resume fits hnext
        simp at hcontent
      · exact hcreation hawaiting
    have hadded : addedTask? (.ofTurn (.reply p reply) s (s.resume p.awaiting reply)) = none := by
      unfold addedTask?
      split
      · next hcause =>
          cases hcause
          exact absurd (awaiting_of_create fits) hcreation
      · rfl
    rw [Accounted, hasks, hadded]
    rfl

theorem accounted_of_possible {r : Run} {e : Event} (fits : AllFit r) (he : actor.Possible r e) :
    Accounted e := by
  cases he with
  | start op => exact accounted_start r.tasks op r.state
  | reply p reply hp => exact accounted_reply (fits p hp) reply r.state
  | change c => rfl

theorem addedTasks_concat (h : History) (e : Event) :
    addedTasks (h ++ [e]) = addedTasks h ++ (addedTask? e).toList := by
  cases he : addedTask? e <;> simp [addedTasks, he]

theorem countP_concat (p : Event → Bool) (h : History) (e : Event) :
    (h ++ [e]).countP p = h.countP p + (p e).toNat := by
  cases he : p e <;> simp [he]

theorem countP_asksListing (moves : List Move) :
    (actor.run moves).history.countP asksListing =
      (actor.run moves).history.countP fetchesLive +
        (actor.run moves).history.countP attachesCreated +
        (addedTasks (actor.run moves).history).length := by
  refine Actor.run_induction (P := fun r : Run => r.history.countP asksListing =
    r.history.countP fetchesLive + r.history.countP attachesCreated +
      (addedTasks r.history).length) rfl ?_ moves
  intro moves e ih he
  have hevent := accounted_of_possible (allFit_run moves) he
  unfold Accounted at hevent
  simp only [Run.extend, countP_concat, addedTasks_concat, List.length_append]
  omega

/-! ## One attachment -/

theorem lifecycle_issueListing (purpose : Purpose) (s : Store) :
    (s.issueListing purpose).state.view.lifecycle = s.view.lifecycle := by
  simp only [issueListing]
  split <;> rfl

theorem lifecycle_settleListing (number : Nat) (answer : Except CallError (List Sample))
    (s : Store) : (s.settleListing number answer).view.lifecycle = s.view.lifecycle := by
  simp only [settleListing, applyListing]
  split
  · rfl
  · cases answer <;> rfl

theorem lifecycle_start (op : Operation) (s : Store) :
    (s.start op).state.view.lifecycle =
      if op = .attach ∧ s.view.lifecycle = .created then .attached else s.view.lifecycle := by
  cases op with
  | attach =>
      simp only [start]
      split <;> simp [lifecycle_issueListing, Turn.refuse, *]
  | fetchAll => simp [start, lifecycle_issueListing]
  | fetchContent name =>
      simp only [start]
      split <;> simp [Turn.refuse]
  | addSample name code =>
      simp only [start]
      split
      · simp [Turn.refuse]
      · split
        · split <;> simp [Turn.refuse]
        · simp [Turn.refuse]

theorem lifecycle_resume (awaiting : Awaiting) (reply : Reply) (s : Store) :
    (s.resume awaiting reply).state.view.lifecycle = s.view.lifecycle := by
  simp only [resume]
  split
  · cases awaiting with
    | listing number purpose => simp [resumeLive, lifecycle_settleListing]
    | lookup name =>
        simp only [resumeLive]
        split <;> rfl
    | content =>
        simp only [resumeLive]
        split <;> rfl
    | creation =>
        simp only [resumeLive]
        split
        · exact lifecycle_issueListing .refresh _
        · rfl
  · rfl

theorem created_of_change {c : Change} {s : Store}
    (h : (s.change c).1.view.lifecycle = .created) : s.view.lifecycle = .created := by
  simp only [change] at h
  split at h
  · cases c with
    | detach => simp at h
    | _ => exact h
  · exact h

theorem created_of_possible {r : Run} {e : Event} (he : actor.Possible r e)
    (h : e.after.view.lifecycle = .created) :
    r.state.view.lifecycle = .created ∧ isAttachment e = false := by
  cases he with
  | start op =>
      change (r.state.start op).state.view.lifecycle = .created at h
      rw [lifecycle_start] at h
      split at h
      · cases h
      · next hother =>
          refine ⟨h, ?_⟩
          cases op with
          | attach => exact absurd ⟨rfl, h⟩ hother
          | _ => rfl
  | reply p reply hp => exact ⟨(lifecycle_resume p.awaiting reply r.state).symm.trans h, rfl⟩
  | change c => exact ⟨created_of_change h, rfl⟩

theorem countP_attachesCreated_le (moves : List Move) :
    (actor.run moves).history.countP attachesCreated ≤ 1 ∧
      ((actor.run moves).state.view.lifecycle = .created →
        ∀ e ∈ (actor.run moves).history, isAttachment e = false) := by
  refine Actor.run_induction (P := fun r : Run => r.history.countP attachesCreated ≤ 1 ∧
    (r.state.view.lifecycle = .created → ∀ e ∈ r.history, isAttachment e = false)) ?_ ?_ moves
  · simp [Actor.initial]
  · rintro moves e ⟨hone, hnone⟩ he
    constructor
    · simp only [Run.extend, countP_concat]
      cases hnew : attachesCreated e with
      | false => simpa using hone
      | true =>
          have hcreated : (actor.run moves).state.view.lifecycle = .created := by
            rw [← he.before_eq]
            simp [attachesCreated] at hnew
            exact hnew.2
          have hzero : (actor.run moves).history.countP attachesCreated = 0 := by
            refine List.countP_eq_zero.mpr fun f hf => ?_
            simp [attachesCreated, hnone hcreated f hf]
          simp [hzero]
    · intro hcreated f hf
      obtain ⟨hbefore, hother⟩ := created_of_possible he hcreated
      rcases List.mem_append.mp hf with hold | hlast
      · exact hnone hbefore f hold
      · rw [List.mem_singleton.mp hlast]
        exact hother

theorem countP_attachesCreated (moves : List Move) :
    (actor.run moves).history.countP attachesCreated =
      if (actor.run moves).history.any attachesCreated then 1 else 0 := by
  have hone := (countP_attachesCreated_le moves).1
  split
  · next hany =>
      have hpos := List.countP_pos_iff.mpr (List.any_eq_true.mp hany)
      omega
  · next hany => simpa using hany

theorem unseen_of_attachment {moves : List Move} {past later : History} {e : Event}
    (hsplit : (actor.run moves).history = past ++ e :: later) (hattach : isAttachment e = true)
    (h : attachesCreated e = false ∨ past.any isAttachment = true) :
    e.after = e.before ∧ e.notified = false ∧ e.request? = none ∧ e.result? = some (.ok .done) := by
  obtain ⟨earlier, rfl, he⟩ := Actor.exists_run_before hsplit
  have hcreated : (actor.run earlier).state.view.lifecycle ≠ .created := by
    intro hcreated
    rcases h with hnot | hbefore
    · simp [attachesCreated, hattach, he.before_eq, hcreated] at hnot
    · obtain ⟨f, hf, hattached⟩ := List.any_eq_true.mp hbefore
      have hnone := (countP_attachesCreated_le earlier).2 hcreated f hf
      simp [hattached] at hnone
  cases he with
  | start op =>
      cases op with
      | attach =>
          have hturn : actor.start .attach (actor.run earlier).state = .refuse _ (.ok .done) :=
            if_neg hcreated
          rw [hturn]
          exact ⟨rfl, rfl, rfl, rfl⟩
      | _ => cases hattach
  | reply p reply hp => cases hattach
  | change c => cases hattach

/-! ## Additions -/

theorem commitsCreate_of_addedTask? {e : Event} {task : Nat} (h : addedTask? e = some task) :
    CommitsCreate e task := by
  unfold addedTask? at h
  split at h
  · next task' op draft awaiting body hcause =>
      obtain ⟨hlive, htask⟩ := Option.ite_none_right_eq_some.mp h
      simp only [Option.some.injEq] at htask
      exact ⟨hlive, _, body, draft, hcause, htask, rfl⟩
  · simp at h

theorem createCommitted_of_mem_addedTasks {h : History} {task : Nat} (ht : task ∈ addedTasks h) :
    CreateCommitted h task := by
  obtain ⟨e, he, htask⟩ := List.mem_filterMap.mp ht
  exact ⟨e, he, commitsCreate_of_addedTask? htask⟩

theorem awaiting_of_commitsCreate {moves : List Move} {e : Event} {task : Nat}
    (he : actor.Possible (actor.run moves) e) (h : CommitsCreate e task) :
    ∃ p ∈ (actor.run moves).waiting, p.task = task ∧ p.awaiting = .creation := by
  obtain ⟨-, p, body, draft, hcause, htask, hrequest⟩ := h
  have hp := he.mem_waiting hcause
  exact ⟨p, hp, htask, awaiting_of_create (hrequest ▸ allFit_run moves p hp)⟩

theorem nodup_addedTasks (moves : List Move) : (addedTasks (actor.run moves).history).Nodup := by
  refine Actor.run_induction (P := fun r : Run => (addedTasks r.history).Nodup) ?_ ?_ moves
  · simp [addedTasks, Actor.initial]
  · intro moves e ih he
    simp only [Run.extend, addedTasks_concat]
    cases hadded : addedTask? e with
    | none => simpa using ih
    | some task =>
        obtain ⟨p, hp, rfl, hawaiting⟩ :=
          awaiting_of_commitsCreate he (commitsCreate_of_addedTask? hadded)
        have hfresh : p.task ∉ addedTasks (actor.run moves).history := by
          intro hmem
          obtain ⟨number, hrefresh⟩ := (refreshesCommitted_run moves p hp).mpr
            (createCommitted_of_mem_addedTasks hmem)
          simp [hawaiting] at hrefresh
        simpa using ih.concat hfresh

theorem started_of_mem_addedTasks {moves : List Move} {task : Nat}
    (h : task ∈ addedTasks (actor.run moves).history) :
    ∃ e ∈ (actor.run moves).history, ∃ name code, e.cause = .start task (.addSample name code) := by
  obtain ⟨e, he, htask⟩ := List.mem_filterMap.mp h
  obtain ⟨-, p, body, draft, hcause, rfl, hrequest⟩ := commitsCreate_of_addedTask? htask
  obtain ⟨f, hf, hstart⟩ := Actor.exists_start_of_reply he hcause
  obtain ⟨earlier, hpossible⟩ := Actor.exists_possible_of_mem_history he
  have hfits := allFit_run earlier p (hpossible.mem_waiting hcause)
  have hcreation : p.awaiting = .creation := awaiting_of_create (hrequest ▸ hfits)
  rw [hcreation] at hfits
  obtain ⟨name, code, -, -, -, hop⟩ := hfits
  exact ⟨f, hf, name, code, hop ▸ hstart⟩

/-- Every listing is accounted for.  In every interleaving, a store has asked for one listing
for each call of `fetchAll` that found it in use, for one attachment if any found it as it was
created, and for each addition whose sample was created while it was in use.  Every attachment
but the first one on a store as it was created succeeds and leaves no trace. -/
theorem listings_accounted_for (moves : List Move) :
    let r := actor.run moves
    r.history.countP asksListing =
        r.history.countP fetchesLive + (if r.history.any attachesCreated then 1 else 0) +
          (addedTasks r.history).length ∧
      (addedTasks r.history).Nodup ∧
      (∀ task ∈ addedTasks r.history,
        ∃ e ∈ r.history, ∃ name code, e.cause = .start task (.addSample name code)) ∧
      ∀ past e later, r.history = past ++ e :: later → isAttachment e = true →
        attachesCreated e = false ∨ past.any isAttachment = true →
          e.after = e.before ∧ e.notified = false ∧ e.request? = none ∧
            e.result? = some (.ok .done) := by
  intro r
  refine ⟨?_, nodup_addedTasks moves, ?_, ?_⟩
  · rw [countP_asksListing, countP_attachesCreated]
  · intro task htask
    exact started_of_mem_addedTasks htask
  · intro past e later hsplit hattach h
    exact unseen_of_attachment hsplit hattach h

end Store

end CodeShelf
