import CodeShelf.Proofs.Session.Submission
import CodeShelf.Proofs.Store.Turns

/-!
# Detached components

Once a store or a session is detached nothing can be seen of it any more: its snapshot
stays, its subscribers hear nothing and no request is sent, whatever is called and
whatever answers arrive.  Every operation that is under way then or called later ends
as detached, but for three that have nothing to lose or were done before.
-/

namespace CodeShelf

namespace Store

/-- What subscribers get of a store: all of it but the count of the listings that were
asked for. -/
def snapshot (s : Store) : StoreView × Nat × Nat :=
  (s.view, s.inFlight, s.applied)

/-! ## Turns of a detached store -/

def lateStart : Operation → Result
  | .attach => .ok .done
  | .fetchAll => .error .detached
  | .fetchContent _ => .error .detached
  | .addSample name code =>
      if isBlankText name then .error (.validation (.emptyField .name))
      else if isBlankText code then .error (.validation (.emptyField .code))
      else .error .detached

theorem ne_created_of_not_isLive {s : Store} (h : s.isLive = false) :
    s.view.lifecycle ≠ .created := by
  intro hcreated
  simp [isLive, hcreated] at h

theorem start_of_not_isLive {s : Store} (op : Operation) (h : s.isLive = false) :
    ∃ n, s.start op = .refuse { s with issued := n } (lateStart op) := by
  cases op with
  | attach => exact ⟨s.issued, by simp [start, ne_created_of_not_isLive h, lateStart]⟩
  | fetchAll => exact ⟨s.issued + 1, issueListing_of_not_isLive .fetch h⟩
  | fetchContent name => exact ⟨s.issued, by simp [start, h, lateStart]⟩
  | addSample name code =>
      refine ⟨s.issued, ?_⟩
      simp only [start, Draft.check, lateStart]
      by_cases hname : isBlankText name = true
      · simp [hname, OperationError.ofData]
      · by_cases hcode : isBlankText code = true
        · simp [hname, hcode, OperationError.ofData]
        · simp [hname, hcode, h]

theorem resume_of_not_isLive {s : Store} (awaiting : Awaiting) (reply : Reply)
    (h : s.isLive = false) : s.resume awaiting reply = .refuse s (lateResult awaiting) := by
  simp [resume, h]

theorem change_of_not_isLive {s : Store} (c : Change) (h : s.isLive = false) :
    s.change c = (s, false) := by
  simp [change, h]

theorem silent_of_not_isLive {r : Run} {e : Event} (he : actor.Possible r e)
    (h : r.state.isLive = false) :
    e.after.isLive = false ∧ Actor.Silent snapshot e := by
  cases he with
  | start op =>
      obtain ⟨n, hturn⟩ := start_of_not_isLive op h
      have hturn' : actor.start op r.state = _ := hturn
      rw [hturn']
      exact ⟨h, rfl, rfl, rfl⟩
  | reply p reply hp =>
      have hturn : actor.resume p.awaiting reply r.state = _ :=
        resume_of_not_isLive p.awaiting reply h
      rw [hturn]
      exact ⟨h, rfl, rfl, rfl⟩
  | change c =>
      have hchange : actor.change c r.state = _ := change_of_not_isLive c h
      rw [hchange]
      exact ⟨h, rfl, rfl, rfl⟩

theorem isLive_detach (s : Store) : (s.change .detach).1.isLive = false := by
  cases h : s.isLive <;> simp [change, h]
  rfl

/-! ## Additions whose sample was created -/

def CommitsCreate (e : Event) (task : Nat) : Prop :=
  e.before.isLive = true ∧ ∃ p body draft,
    e.cause = .reply p (.ok body) ∧ p.task = task ∧ p.request = .create draft

theorem CommitsCreate.task?_eq {e : Event} {task : Nat} (h : CommitsCreate e task) :
    e.task? = some task := by
  obtain ⟨-, p, body, draft, hcause, htask, -⟩ := h
  simp [Event.task?, hcause, htask]

def CreateCommitted (h : History) (task : Nat) : Prop :=
  ∃ e ∈ h, CommitsCreate e task

theorem createCommitted_concat {h : History} {e : Event} {task : Nat} :
    CreateCommitted (h ++ [e]) task ↔ CreateCommitted h task ∨ CommitsCreate e task := by
  simp [CreateCommitted, or_and_right, exists_or]

theorem not_refresh_of_start {s : Store} {op : Operation} {request : Request} {number : Nat}
    (h : (s.start op).next = .ask request (.listing number .refresh)) : False := by
  obtain ⟨-, name, code, rfl⟩ := fits_start h
  simp only [start] at h
  split at h
  · cases h
  · split at h
    · split at h <;> cases h
    · cases h

theorem next_resume {s : Store} {awaiting next : Awaiting} {reply : Reply}
    {request : Request} (h : (s.resume awaiting reply).next = .ask request next) :
    s.isLive = true ∧
      ((∃ name, awaiting = .lookup name ∧ next = .content) ∨
        (∃ body number, awaiting = .creation ∧ reply = .ok body ∧
          next = .listing number .refresh)) := by
  simp only [resume] at h
  split at h
  · next hlive =>
      refine ⟨hlive, ?_⟩
      cases awaiting with
      | listing number purpose => simp [resumeLive] at h
      | lookup name =>
          simp only [resumeLive] at h
          split at h
          · cases h
            exact .inl ⟨name, rfl, rfl⟩
          · cases h
      | content =>
          simp only [resumeLive] at h
          split at h <;> cases h
      | creation =>
          simp only [resumeLive] at h
          split at h
          · next body =>
              obtain ⟨number, -, rfl⟩ := next_issueListing h
              exact .inr ⟨body, number, rfl, rfl, rfl⟩
          · cases h
  · cases h

def RefreshesCommitted (r : Run) : Prop :=
  ∀ p ∈ r.waiting,
    (∃ number, p.awaiting = .listing number .refresh) ↔ CreateCommitted r.history p.task

theorem RefreshesCommitted.extend {r : Run} {e : Event} (h : RefreshesCommitted r)
    (numbered : Actor.Numbered r) (fits : AllFit r) (he : actor.Possible r e) :
    RefreshesCommitted (r.extend e) := by
  intro p hp
  have hhistory : (r.extend e).history = r.history ++ [e] := rfl
  rw [hhistory, createCommitted_concat]
  rcases numbered.waiting_cases he hp with ⟨hold, hne⟩ | ⟨hopened, htask⟩
  · rw [h p hold]
    constructor
    · exact .inl
    · rintro (hcommitted | hcommits)
      · exact hcommitted
      · exact absurd hcommits.task?_eq hne
  · have hnext := Actor.next_of_mem_opened hopened
    cases he with
    | change c => cases htask
    | start op =>
        -- No event of the history belongs to the new task.
        constructor
        · rintro ⟨number, hawaiting⟩
          rw [hawaiting] at hnext
          exact (not_refresh_of_start (Option.some.inj hnext)).elim
        · rintro (⟨f, hf, hcommits⟩ | ⟨-, q, body, draft, hcause, -⟩)
          · have hlt := numbered.2 f hf _ hcommits.task?_eq
            have heq : r.tasks = p.task := Option.some.inj htask
            omega
          · cases hcause
    | reply q reply hq =>
        have htask' : q.task = p.task := Option.some.inj htask
        obtain ⟨hlive, hstage⟩ := next_resume (Option.some.inj hnext)
        rcases hstage with ⟨name, hlookup, hcontent⟩ | ⟨body, number, hcreation, rfl, hrefresh⟩
        · -- A lookup is neither a listing nor an addition, and neither is what follows.
          have hold := h q hq
          have hfits := fits q hq
          rw [hlookup] at hold hfits
          rw [hcontent, ← htask', ← hold]
          constructor
          · rintro ⟨number, hawaiting⟩
            cases hawaiting
          · rintro (⟨number, hawaiting⟩ | ⟨-, q', body, draft, hcause, -, hrequest⟩)
            · cases hawaiting
            · cases hcause
              cases hfits.1.symm.trans hrequest
        · have hfits := fits q hq
          rw [hcreation] at hfits
          obtain ⟨-, -, draft, -, hrequest, -⟩ := hfits
          constructor
          · intro _
            exact .inr ⟨hlive, q, body, draft, rfl, htask', hrequest⟩
          · intro _
            exact ⟨number, hrefresh⟩

theorem refreshesCommitted_run (moves : List Move) : RefreshesCommitted (actor.run moves) := by
  refine Actor.run_induction ?_ ?_ moves
  · simp [RefreshesCommitted, Actor.initial]
  · intro moves e ih he
    exact ih.extend (Actor.numbered_run moves) (allFit_run moves) he

/-! ## The last results of a store -/

/-- How the operations of a detached store end, where `h` is its history up to the
detachment. -/
def EndsLate (h : History) (e : Event) : Prop :=
  (∀ task op, e.cause = .start task op → e.result? = some (lateStart op)) ∧
    ∀ p reply, e.cause = .reply p reply →
      (CreateCommitted h p.task → e.result? = some (.ok .done)) ∧
        (¬ CreateCommitted h p.task → e.result? = some (.error .detached))

theorem createCommitted_of_append {past later : History} {task : Nat}
    (dead : ∀ f ∈ later, f.before.isLive = false) (h : CreateCommitted (past ++ later) task) :
    CreateCommitted past task := by
  obtain ⟨e, he, hcommits⟩ := h
  rcases List.mem_append.mp he with hpast | hlater
  · exact ⟨e, hpast, hcommits⟩
  · cases (dead e hlater).symm.trans hcommits.1

theorem lateResult_of_not_refresh {awaiting : Awaiting}
    (h : ¬ ∃ number, awaiting = .listing number .refresh) :
    lateResult awaiting = .error .detached := by
  cases awaiting with
  | listing number purpose =>
      cases purpose with
      | fetch => rfl
      | refresh => exact absurd ⟨number, rfl⟩ h
  | lookup name => rfl
  | content => rfl
  | creation => rfl

theorem endsLate_of_possible {moves : List Move} {e : Event} {past later : History}
    (hdead : (actor.run moves).state.isLive = false)
    (hhistory : (actor.run moves).history = past ++ later)
    (hlater : ∀ f ∈ later, f.before.isLive = false)
    (he : actor.Possible (actor.run moves) e) : EndsLate past e := by
  have hrefresh := refreshesCommitted_run moves
  generalize actor.run moves = r at *
  constructor
  · intro task op hcause
    cases he with
    | change c => cases hcause
    | reply p reply hp => cases hcause
    | start op' =>
        cases hcause
        obtain ⟨n, hturn⟩ := start_of_not_isLive op hdead
        have hturn' : actor.start op r.state = _ := hturn
        rw [hturn']
        rfl
  · intro p reply hcause
    have hiff := hrefresh p (he.mem_waiting hcause)
    have hresult : e.result? = some (lateResult p.awaiting) := by
      cases he with
      | start op => cases hcause
      | change c => cases hcause
      | reply p' reply' hp =>
          cases hcause
          have hturn : actor.resume p.awaiting reply r.state = _ :=
            resume_of_not_isLive p.awaiting reply hdead
          rw [hturn]
          rfl
    rw [hresult]
    constructor
    · intro hcommitted
      have hnow : CreateCommitted r.history p.task := by
        obtain ⟨f, hf, hcommits⟩ := hcommitted
        exact ⟨f, hhistory ▸ List.mem_append_left later hf, hcommits⟩
      obtain ⟨number, hawaiting⟩ := hiff.mpr hnow
      rw [hawaiting]
      rfl
    · intro hnot
      rw [lateResult_of_not_refresh]
      intro hlisting
      have hnow := hiff.mp hlisting
      rw [hhistory] at hnow
      exact hnot (createCommitted_of_append hlater hnow)

end Store

namespace Session

def EndsLate (_ : List Event) (e : Event) : Prop :=
  (∀ task op, e.cause = .start task op → e.result? = some (.error .detached)) ∧
    ∀ p reply, e.cause = .reply p reply → e.result? = some (.error .detached)

theorem silent_of_detached {r : Run} {e : Event} (he : actor.Possible r e)
    (h : r.state.detached = true) :
    e.after.detached = true ∧ Actor.Silent id e := by
  cases he with
  | start op =>
      have hturn : actor.start op r.state = _ := start_of_detached op h
      rw [hturn]
      exact ⟨h, rfl, rfl, rfl⟩
  | reply p reply hp =>
      have hturn : actor.resume p.awaiting reply r.state = _ := resume_of_detached reply h
      rw [hturn]
      exact ⟨h, rfl, rfl, rfl⟩
  | change c =>
      have hchange : actor.change c r.state = (r.state, false) := by
        simp [actor, change, h]
      rw [hchange]
      exact ⟨h, rfl, rfl, rfl⟩

theorem endsLate_of_possible {r : Run} {e : Event} (past : List Event)
    (h : r.state.detached = true) (he : actor.Possible r e) : EndsLate past e := by
  constructor
  · intro task op hcause
    cases he with
    | change c => cases hcause
    | reply p reply hp => cases hcause
    | start op' =>
        have hturn : actor.start op' r.state = _ := start_of_detached op' h
        rw [hturn]
        rfl
  · intro p reply hcause
    cases he with
    | start op => cases hcause
    | change c => cases hcause
    | reply p' reply' hp =>
        have hturn : actor.resume p'.awaiting reply' r.state = _ := resume_of_detached reply' h
        rw [hturn]
        rfl

end Session

/-- Detachment is for good, for stores and for sessions, in every interleaving: nothing
can be seen of the component any more, and its operations end as `EndsLate` says. -/
theorem detached_for_good :
    Store.actor.SilentAfter Store.snapshot .detach Store.EndsLate ∧
      Session.actor.SilentAfter id .detach Session.EndsLate := by
  constructor
  · refine Actor.silentAfter_of_dead (fun s => s.isLive = false) Store.isLive_detach ?_ ?_
    · intro r e he hdead
      exact Store.silent_of_not_isLive he hdead
    · intro moves e past later hdead hhistory hlater he
      exact Store.endsLate_of_possible hdead hhistory hlater he
  · refine Actor.silentAfter_of_dead (fun s => s.detached = true) ?_ ?_ ?_
    · intro s
      cases h : s.detached <;> simp [Session.actor, Session.change, h]
    · intro r e he hdead
      exact Session.silent_of_detached he hdead
    · intro moves e past later hdead hhistory hlater he
      exact Session.endsLate_of_possible past hdead he

end CodeShelf
