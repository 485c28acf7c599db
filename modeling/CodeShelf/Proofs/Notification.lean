import CodeShelf.Proofs.Detach
import CodeShelf.Proofs.Store.Ledger

/-!
# Notifications

A component says with every turn whether its subscribers are notified, and it says so apart
from what the turn changes.  Yet no snapshot ever changes in silence, and a session notifies
only when its snapshot has changed.  Calls that are refused, attachments and detachments that
were made before, and answers that find the component detached leave no trace at all.
-/

namespace CodeShelf

variable {σ ι κ ρ χ α : Type}

def OperationError.refuses : OperationError → Bool
  | validation _ => true
  | busy _ => true
  | detached => true
  | notFound _ => false
  | transport _ => false
  | config _ => false

def Event.Refuses (e : Event σ ι κ (Except OperationError α) χ) : Prop :=
  ∃ error, e.result? = some (.error error) ∧ error.refuses = true

namespace Actor

/-- Whether an event comes too late: a change that was made before is made again, or an
answer arrives after it. -/
def Late (c : χ) (past : List (Event σ ι κ ρ χ)) (e : Event σ ι κ ρ χ) : Prop :=
  (∃ f ∈ past, f.cause = .change c) ∧ (e.cause = .change c ∨ ∃ p reply, e.cause = .reply p reply)

theorem dead_of_change {a : Actor σ ι κ ρ χ} {c : χ} (dead : σ → Prop)
    (dies : ∀ s, dead (a.change c s).1)
    (stays : ∀ r e, a.Possible r e → dead r.state → dead e.after) (moves : List (Move ι χ))
    (h : ∃ f ∈ (a.run moves).history, f.cause = .change c) : dead (a.run moves).state := by
  refine run_induction (P := fun r => (∃ f ∈ r.history, f.cause = .change c) → dead r.state)
    ?_ ?_ moves h
  · rintro ⟨f, hf, -⟩
    cases hf
  · rintro moves e ih he ⟨f, hf, hcause⟩
    rcases List.mem_append.mp hf with hold | hlast
    · exact stays _ e he (ih ⟨f, hold, hcause⟩)
    · rw [List.mem_singleton.mp hlast] at hcause
      cases he with
      | start op => cases hcause
      | reply p reply hp => cases hcause
      | change c' =>
          cases hcause
          exact dies _

end Actor

namespace Store

/-! ## Stores -/

def Tells (s : Store) (t : StoreTurn) : Prop :=
  t.notified = true ∨ snapshot t.state = snapshot s

theorem tells_issueListing (purpose : Purpose) (s : Store) :
    Tells s (s.issueListing purpose) := by
  cases hs : s.isLive with
  | true => exact .inl (by rw [issueListing_of_isLive purpose hs])
  | false =>
      right
      rw [issueListing_of_not_isLive purpose hs]
      rfl

theorem tells_start (op : Operation) (s : Store) : Tells s (s.start op) := by
  cases op with
  | attach =>
      simp only [start]
      split
      · left
        rw [issueListing_of_isLive .fetch rfl]
      · exact .inr rfl
  | fetchAll => exact tells_issueListing .fetch s
  | fetchContent name =>
      simp only [start]
      split <;> exact .inr rfl
  | addSample name code =>
      simp only [start]
      split
      · exact .inr rfl
      · split
        · split
          · exact .inr rfl
          · exact .inl rfl
        · exact .inr rfl

theorem tells_resume (awaiting : Awaiting) (reply : Reply) (s : Store) :
    Tells s (s.resume awaiting reply) := by
  simp only [resume]
  split
  · next hlive =>
      cases awaiting with
      | listing number purpose => exact .inl rfl
      | lookup name =>
          simp only [resumeLive]
          split
          · exact .inr rfl
          · exact .inl rfl
      | content =>
          simp only [resumeLive]
          split <;> exact .inl rfl
      | creation =>
          simp only [resumeLive]
          split
          · left
            rw [issueListing_of_isLive]
            exact hlive
          · exact .inl rfl
  · exact .inr rfl

theorem tells_change (c : Change) (s : Store) :
    (s.change c).2 = true ∨ snapshot (s.change c).1 = snapshot s := by
  cases hlive : s.isLive with
  | false => exact .inr (by rw [change_of_not_isLive c hlive])
  | true =>
      left
      cases c <;> simp [Store.change, hlive]

theorem notified_of_changed {r : Run} {e : Event} (he : actor.Possible r e)
    (h : snapshot e.after ≠ snapshot e.before) : e.notified = true := by
  cases he with
  | start op => exact (tells_start op r.state).resolve_right h
  | reply p reply hp => exact (tells_resume p.awaiting reply r.state).resolve_right h
  | change c => exact (tells_change c r.state).resolve_right h

theorem start_of_refuses {s : Store} {op : Operation} {error : OperationError}
    (live : s.isLive = true) (h : (s.start op).next.result? = some (.error error)) :
    s.start op = .refuse s (.error error) := by
  cases op with
  | attach =>
      simp only [start] at h ⊢
      split at h
      · rw [issueListing_of_isLive .fetch rfl] at h
        cases h
      · cases h
  | fetchAll =>
      rw [start, issueListing_of_isLive .fetch live] at h
      cases h
  | fetchContent name =>
      rw [start, if_pos live] at h
      cases h
  | addSample name code =>
      simp only [start, live, if_true] at h ⊢
      split at h
      · cases h
        rfl
      · split at h
        · next hadding =>
            cases h
            rw [if_pos hadding]
        · cases h

theorem not_refuses_of_resumeLive {s : Store} {awaiting : Awaiting} {reply : Reply}
    {error : OperationError} (live : s.isLive = true)
    (h : (s.resumeLive awaiting reply).next.result? = some (.error error)) :
    error.refuses = false := by
  cases awaiting with
  | listing number purpose =>
      simp only [resumeLive, Next.result?, Option.some.injEq] at h
      cases purpose with
      | refresh => cases h
      | fetch =>
          cases hanswer : reply.samples with
          | ok samples =>
              rw [hanswer] at h
              cases h
          | error e =>
              rw [hanswer] at h
              cases h
              rfl
  | lookup name =>
      simp only [resumeLive] at h
      split at h
      · cases h
      · cases h
        rfl
  | content =>
      simp only [resumeLive] at h
      split at h
      · cases h
      · cases h
        rfl
  | creation =>
      simp only [resumeLive] at h
      split at h
      · rw [issueListing_of_isLive _ (by exact live)] at h
        cases h
      · cases h
        rfl

theorem silent_of_refuses {r : Run} {e : Event} (he : actor.Possible r e) (h : e.Refuses) :
    Actor.Silent snapshot e := by
  obtain ⟨error, hresult, hrefuses⟩ := h
  cases hlive : r.state.isLive with
  | false => exact (silent_of_not_isLive he hlive).2
  | true =>
      cases he with
      | change c => cases hresult
      | start op =>
          have hturn : actor.start op r.state = _ := start_of_refuses hlive hresult
          rw [hturn]
          exact ⟨rfl, rfl, rfl⟩
      | reply p reply hp =>
          change (r.state.resume p.awaiting reply).next.result? = _ at hresult
          rw [resume, if_pos hlive] at hresult
          cases hrefuses.symm.trans (not_refuses_of_resumeLive hlive hresult)

theorem silent_of_late {moves : List Move} {e : Event} (he : actor.Possible (actor.run moves) e)
    (h : Actor.Late .detach (actor.run moves).history e) : Actor.Silent snapshot e := by
  refine (silent_of_not_isLive he ?_).2
  refine Actor.dead_of_change (fun s => s.isLive = false) isLive_detach ?_ moves h.1
  intro r e he hdead
  exact (silent_of_not_isLive he hdead).1

theorem silent_of_reattachment {moves : List Move} {past later : History} {e : Event}
    (hsplit : (actor.run moves).history = past ++ e :: later) (hattach : isAttachment e = true)
    (h : attachesCreated e = false ∨ past.any isAttachment = true) : Actor.Silent snapshot e := by
  obtain ⟨hstate, hnotified, hrequest, -⟩ := unseen_of_attachment hsplit hattach h
  exact ⟨congrArg snapshot hstate, hnotified, hrequest⟩

end Store

namespace Session

/-! ## Sessions -/

theorem resume_of_not_pending {s : Session} (reply : Reply) (h : s.detached = false)
    (hp : s.execution.status ≠ .pending) :
    EndTurn.over (s.resume reply) = .refuse s (.error .detached) := by
  simp [resume, h, Execution.resolve_eq_none hp, EndTurn.over, Turn.refuse, Next.result]

theorem notified_iff_changed {r : Run} {e : Event} (he : actor.Possible r e) :
    e.notified = true ↔ e.after ≠ e.before := by
  cases hd : r.state.detached with
  | true =>
      obtain ⟨-, hstate, hnotified, -⟩ := silent_of_detached he hd
      simpa [hnotified] using hstate
  | false =>
      cases he with
      | start op =>
          by_cases hp : r.state.execution.status = .pending
          · have hturn : actor.start op r.state = _ := start_of_pending op hd hp
            simp [hturn, Event.ofTurn, Turn.refuse]
          · have hturn : actor.start op r.state = _ := start_of_idle op hd hp
            rw [hturn]
            refine ⟨fun _ hsame => hp ?_, fun _ => rfl⟩
            exact (congrArg (fun s => s.execution.status) hsame).symm
      | reply p reply _ =>
          by_cases hp : r.state.execution.status = .pending
          · have hturn : actor.resume p.awaiting reply r.state = _ := resume_of_pending reply hd hp
            rw [hturn]
            refine ⟨fun _ hsame => verdict_ne_pending reply ?_, fun _ => rfl⟩
            exact (congrArg (fun s => s.execution.status) hsame).trans hp
          · have hturn : actor.resume p.awaiting reply r.state = _ :=
              resume_of_not_pending reply hd hp
            simp [hturn, Event.ofTurn, Turn.refuse]
      | change c =>
          cases c with
          | detach =>
              refine ⟨fun _ hsame => ?_, fun _ => ?_⟩
              · have hdetached := congrArg Session.detached hsame
                simp [Event.ofChange, actor, Session.change, hd] at hdetached
              · simp [Event.ofChange, actor, Session.change, hd]
          | edit text =>
              have hchange : actor.change (.edit text) r.state =
                  ({ r.state with execution := r.state.execution.edit text },
                    r.state.execution.editChanges text) := by
                simp [actor, Session.change, hd]
              rw [hchange]
              refine (Execution.editChanges_iff text r.state.execution).trans (not_congr ?_)
              constructor
              · intro hsame
                change ({ r.state with execution := r.state.execution.edit text } : Session) =
                  r.state
                rw [hsame]
              · intro hsame
                exact congrArg Session.execution hsame

theorem silent_of_refuses {r : Run} {e : Event} (he : actor.Possible r e) (h : e.Refuses) :
    Actor.Silent id e := by
  obtain ⟨error, hresult, -⟩ := h
  cases hd : r.state.detached with
  | true => exact (silent_of_detached he hd).2
  | false =>
      cases he with
      | change c => cases hresult
      | start op =>
          by_cases hp : r.state.execution.status = .pending
          · have hturn : actor.start op r.state = _ := start_of_pending op hd hp
            rw [hturn]
            exact ⟨rfl, rfl, rfl⟩
          · have hturn : actor.start op r.state = _ := start_of_idle op hd hp
            rw [hturn] at hresult
            cases hresult
      | reply p reply _ =>
          by_cases hp : r.state.execution.status = .pending
          · have hturn : actor.resume p.awaiting reply r.state = _ := resume_of_pending reply hd hp
            rw [hturn] at hresult
            cases hresult
          · have hturn : actor.resume p.awaiting reply r.state = _ :=
              resume_of_not_pending reply hd hp
            rw [hturn]
            exact ⟨rfl, rfl, rfl⟩

theorem silent_of_late {moves : List Move} {e : Event} (he : actor.Possible (actor.run moves) e)
    (h : Actor.Late .detach (actor.run moves).history e) : Actor.Silent id e := by
  refine (silent_of_detached he ?_).2
  refine Actor.dead_of_change (fun s => s.detached = true) ?_ ?_ moves h.1
  · intro s
    cases hd : s.detached <;> simp [actor, Session.change, hd]
  · intro r e he hdead
    exact (silent_of_detached he hdead).1

end Session

/-- Notifications match changes, whatever is done to a component and whatever answers arrive.
Of a store, no snapshot changes in silence; a session notifies its subscribers if and only if
its snapshot has changed.  And an event leaves no trace if it refuses an operation, attaches a
store that was attached before, detaches again, or brings an answer after a detachment. -/
theorem notifications_match_changes (storeMoves : List Store.Move)
    (sessionMoves : List Session.Move) :
    (∀ past e later, (Store.actor.run storeMoves).history = past ++ e :: later →
      (Store.snapshot e.after ≠ Store.snapshot e.before → e.notified = true) ∧
        (e.Refuses ∨
            (Store.isAttachment e = true ∧
              (Store.attachesCreated e = false ∨ past.any Store.isAttachment = true)) ∨
            Actor.Late .detach past e →
          Actor.Silent Store.snapshot e)) ∧
      ∀ past e later, (Session.actor.run sessionMoves).history = past ++ e :: later →
        (e.notified = true ↔ e.after ≠ e.before) ∧
          (e.Refuses ∨ Actor.Late .detach past e → Actor.Silent id e) := by
  constructor
  · intro past e later hsplit
    obtain ⟨earlier, rfl, he⟩ := Actor.exists_run_before hsplit
    refine ⟨Store.notified_of_changed he, ?_⟩
    rintro (hrefuses | ⟨hattach, hbefore⟩ | hlate)
    · exact Store.silent_of_refuses he hrefuses
    · exact Store.silent_of_reattachment hsplit hattach hbefore
    · exact Store.silent_of_late he hlate
  · intro past e later hsplit
    obtain ⟨earlier, rfl, he⟩ := Actor.exists_run_before hsplit
    refine ⟨Session.notified_iff_changed he, ?_⟩
    rintro (hrefuses | hlate)
    · exact Session.silent_of_refuses he hrefuses
    · exact Session.silent_of_late he hlate

end CodeShelf
