import CodeShelf.Proofs.Store.Bookkeeping

/-!
# What the user is told

The error of a store is what the latest event had to say about it.  Only answers that find
the store in use say anything: a listing that is not overtaken, the end of a lookup by name,
and the creation of a sample.  A success says that there is no error, so every success takes
the error away, with one exception: a listing that was overtaken by a later one says
nothing, whatever its answer is.
-/

namespace CodeShelf

namespace Event

variable {σ ι κ ρ χ : Type}

def op? (e : Event σ ι κ ρ χ) : Option ι :=
  match e.cause with
  | .start _ op => some op
  | .reply p _ => some p.op
  | .change _ => none

theorem next_of_request? {cause : Cause ι κ χ} {s : σ} {t : Turn σ κ ρ} {request : Request}
    (h : (ofTurn cause s t).request? = some request) :
    ∃ awaiting, t.next = .ask request awaiting := by
  cases hnext : t.next with
  | ask request' awaiting =>
      simp [ofTurn, request?, hnext, Next.request?] at h
      exact ⟨awaiting, by rw [h]⟩
  | finish result => simp [ofTurn, request?, hnext, Next.request?] at h

theorem next_of_result? {cause : Cause ι κ χ} {s : σ} {t : Turn σ κ ρ} {result : ρ}
    (h : (ofTurn cause s t).result? = some result) : t.next = .finish result := by
  cases hnext : t.next with
  | ask request awaiting => simp [ofTurn, result?, hnext, Next.result?] at h
  | finish result' =>
      simp [ofTurn, result?, hnext, Next.result?] at h
      rw [h]

end Event

namespace Store

/-! ## Overtaken listings -/

def Overtaken (past : History) (c : Completion) : Prop :=
  ∃ d ∈ completions past, c.number < d.number

instance (past : History) (c : Completion) : Decidable (Overtaken past c) :=
  inferInstanceAs (Decidable (∃ d ∈ completions past, c.number < d.number))

structure AnsweredOnce (r : Run) : Prop where
  waiting : ∀ p ∈ r.waiting, ∀ q ∈ r.waiting, ∀ number purpose purpose',
    p.awaiting = .listing number purpose → q.awaiting = .listing number purpose' →
      p.task = q.task
  completed : ∀ d ∈ completions r.history, d.number ≤ r.state.issued ∧
    ∀ p ∈ r.waiting, ∀ purpose, p.awaiting ≠ .listing d.number purpose

theorem number_of_opened {r : Run} {e : Event} {p : Pending} (fits : AllFit (r.extend e))
    (he : actor.Possible r e) (hp : p ∈ (r.extend e).waiting) (hopened : p ∈ e.opened)
    {number : Nat} {purpose : Purpose} (h : p.awaiting = .listing number purpose) :
    number = r.state.issued + 1 := by
  have hnext := Actor.next_of_mem_opened hopened
  rw [fits.request_eq hp h, h] at hnext
  rcases countsListings_of_possible he with ⟨_, -, -, -, hask⟩ | ⟨hask, -⟩
  · simp only [hnext, Option.some.injEq, Next.ask.injEq, Awaiting.listing.injEq] at hask
    exact hask.2.1
  · exact absurd hnext (hask _)

theorem AnsweredOnce.extend {r : Run} {e : Event} (h : AnsweredOnce r)
    (order : ListingsInOrder r) (fits : AllFit r) (numbered : Actor.Numbered r)
    (he : actor.Possible r e) : AnsweredOnce (r.extend e) := by
  have hcases := fun p hp => numbered.waiting_cases (p := p) he hp
  have hnew := fun p hp => number_of_opened (p := p) (fits.extend he) he hp
  have hissued : r.state.issued ≤ e.after.issued := by
    rcases countsListings_of_possible he with ⟨_, -, -, hissued, -⟩ | ⟨-, hissued, -⟩ <;> omega
  constructor
  · intro p hp q hq number purpose purpose' hpa hqa
    rcases hcases p hp with ⟨hpold, -⟩ | ⟨hpnew, hptask⟩
    · rcases hcases q hq with ⟨hqold, -⟩ | ⟨hqnew, -⟩
      · exact h.waiting p hpold q hqold number purpose purpose' hpa hqa
      · have hle := (order.waiting p hpold number purpose hpa).2
        have heq := hnew q hq hqnew hqa
        omega
    · rcases hcases q hq with ⟨hqold, -⟩ | ⟨-, hqtask⟩
      · have hle := (order.waiting q hqold number purpose' hqa).2
        have heq := hnew p hp hpnew hpa
        omega
      · exact Option.some.inj (hptask.symm.trans hqtask)
  · intro d hd
    rw [completions_extend, List.mem_append, Option.mem_toList] at hd
    rcases hd with hold | hlast
    · obtain ⟨hle, hwaiting⟩ := h.completed d hold
      refine ⟨by change d.number ≤ e.after.issued; omega, ?_⟩
      intro p hp purpose hpa
      rcases hcases p hp with ⟨hpold, -⟩ | ⟨hpnew, -⟩
      · exact hwaiting p hpold purpose hpa
      · have heq := hnew p hp hpnew hpa
        omega
    · -- The listing that the event completes was under way, and nobody else waits for it.
      obtain ⟨-, q, purpose', reply, hcause, -, -, hqa, -⟩ := cause_of_completionOf hlast
      have hq := he.mem_waiting hcause
      have hle := (order.waiting q hq d.number purpose' hqa).2
      refine ⟨by change d.number ≤ e.after.issued; omega, ?_⟩
      intro p hp purpose hpa
      rcases hcases p hp with ⟨hpold, hne⟩ | ⟨hpnew, -⟩
      · apply hne
        rw [Event.task?, hcause, h.waiting p hpold q hq d.number purpose purpose' hpa hqa]
      · have heq := hnew p hp hpnew hpa
        omega

theorem answeredOnce_run (moves : List Move) : AnsweredOnce (actor.run moves) := by
  refine Actor.run_induction ?_ ?_ moves
  · constructor <;> simp [Actor.initial, completions]
  · intro moves e ih he
    exact ih.extend (listingsInOrder_run moves) (allFit_run moves) (Actor.numbered_run moves) he

theorem overtaken_iff {moves : List Move} {e : Event} {c : Completion}
    (he : actor.Possible (actor.run moves) e) (hc : completionOf e = some c) :
    Overtaken (actor.run moves).history c ↔
      ¬ ∀ d ∈ completions (actor.run moves).history, d.number < c.number := by
  obtain ⟨-, p, purpose, reply, hcause, -, -, hawaiting, -⟩ := cause_of_completionOf hc
  unfold Overtaken
  push Not
  refine exists_congr fun d => and_congr_right fun hd => ?_
  have hne : d.number ≠ c.number := by
    intro heq
    apply ((answeredOnce_run moves).completed d hd).2 p (he.mem_waiting hcause) purpose
    rw [heq, hawaiting]
  omega

/-! ## What an event says -/

/-- What the answer to a request of an operation says about the error of a store in use, if it
says anything.  A listing has a say only if it is `newest`. -/
def tells (newest : Bool) (op : Operation) (request : Request) (reply : Reply) :
    Option (Option Notice) :=
  match request, op with
  | .listing, _ =>
      if newest then some (if reply.samples.isOk then none else some .loadFailed) else none
  | .idOf _, .fetchContent name =>
      if reply.id?.toOption.join.isSome then none else some (some (.notFound name))
  | .content _, .fetchContent _ =>
      some (if reply.code.isOk then none else some .contentFailed)
  | .create _, .addSample _ _ => some (if reply.isOk then none else some .addFailed)
  | _, _ => none

def isNewest (past : History) (e : Event) : Bool :=
  (completionOf e).all fun c => (completions past).all (·.number < c.number)

def verdict (past : History) (e : Event) : Option (Option Notice) :=
  match e.cause with
  | .reply p reply =>
      if e.before.isLive then tells (isNewest past e) p.op p.request reply else none
  | _ => none

/-- The error that a history leads to, newest event first: the first event that says
anything decides. -/
def told : History → Option Notice
  | [] => none
  | e :: past => (verdict past e).getD (told past)

@[simp] theorem error_issueListing (purpose : Purpose) (s : Store) :
    (s.issueListing purpose).state.view.error = s.view.error := by
  simp only [issueListing]
  split <;> rfl

theorem error_start (op : Operation) (s : Store) :
    (s.start op).state.view.error = s.view.error := by
  cases op with
  | attach =>
      simp only [start]
      split <;> simp [Turn.refuse]
  | fetchAll => simp [start]
  | fetchContent name =>
      simp only [start]
      split <;> simp [Turn.refuse]
  | addSample name code =>
      simp only [start]
      split
      · simp [Turn.refuse]
      · split
        · split <;> simp [Turn.refuse]
        · simp [Turn.refuse]

theorem error_change (c : Change) (s : Store) :
    (s.change c).1.view.error = s.view.error := by
  simp only [change]
  split
  · cases c <;> simp
  · simp

theorem error_settleListing (number : Nat) (answer : Except CallError (List Sample))
    (s : Store) :
    (s.settleListing number answer).view.error =
      if s.applied < number then (if answer.isOk then none else some .loadFailed)
      else s.view.error := by
  simp only [settleListing, applyListing]
  split
  · next hle => rw [if_neg (Nat.not_lt_of_le hle)]
  · next hlt =>
      rw [if_pos (Nat.lt_of_not_le hlt)]
      cases answer <;> rfl

theorem error_resume {s : Store} (live : s.isLive = true) {op : Operation} {request : Request}
    {awaiting : Awaiting} (fits : Fits op request awaiting) (reply : Reply) {newest : Bool}
    (hnewest : ∀ number purpose, awaiting = .listing number purpose →
      (newest = true ↔ s.applied < number)) :
    (s.resume awaiting reply).state.view.error =
      (tells newest op request reply).getD s.view.error := by
  simp only [resume, live, if_true]
  cases awaiting with
  | listing number purpose =>
      obtain rfl : request = .listing := by cases purpose <;> exact fits.1
      simp only [resumeLive, error_settleListing, tells, hnewest number purpose rfl]
      split <;> rfl
  | lookup name =>
      obtain ⟨rfl, rfl⟩ := fits
      simp only [resumeLive, tells]
      rcases reply.id? with e | id
      · rfl
      · cases id <;> rfl
  | content =>
      obtain ⟨name, id, rfl, rfl⟩ := fits
      simp only [resumeLive, tells]
      cases reply.code <;> rfl
  | creation =>
      obtain ⟨name, code, draft, -, rfl, rfl⟩ := fits
      simp only [resumeLive, tells]
      cases reply with
      | error e => rfl
      | ok body => simp [Except.isOk, Except.toBool]

theorem completionOf_of_listing {r : Run} {p : Pending} (fits : AllFit r) (hp : p ∈ r.waiting)
    (live : r.state.isLive = true) {number : Nat} {purpose : Purpose}
    (hawaiting : p.awaiting = .listing number purpose) (reply : Reply)
    (t : Turn Store Awaiting Result) :
    completionOf (.ofTurn (.reply p reply) r.state t) = some ⟨p.op, number, reply.samples⟩ := by
  have hrequest := fits.request_eq hp hawaiting
  obtain ⟨task, op, request, awaiting⟩ := p
  subst hrequest hawaiting
  simp [completionOf, Event.ofTurn, live]

theorem isNewest_iff {r : Run} (fits : AllFit r) (order : ListingsInOrder r) {p : Pending}
    (hp : p ∈ r.waiting) (live : r.state.isLive = true) {number : Nat} {purpose : Purpose}
    (hawaiting : p.awaiting = .listing number purpose) (reply : Reply)
    (t : Turn Store Awaiting Result) :
    isNewest r.history (.ofTurn (.reply p reply) r.state t) = true ↔
      r.state.applied < number := by
  have hpos := (order.waiting p hp number purpose hawaiting).1
  rw [isNewest, completionOf_of_listing fits hp live hawaiting reply t, order.applied,
    lastNumber_lt_iff hpos]
  simp

theorem error_eq_verdict {r : Run} {e : Event} (fits : AllFit r) (order : ListingsInOrder r)
    (he : actor.Possible r e) :
    e.after.view.error = (verdict r.history e).getD e.before.view.error := by
  cases he with
  | start op => exact error_start op r.state
  | change c => exact error_change c r.state
  | reply p reply hp =>
      change (r.state.resume p.awaiting reply).state.view.error =
        (if r.state.isLive then _ else none).getD r.state.view.error
      split
      · next hlive =>
          refine error_resume hlive (fits p hp) reply fun number purpose hawaiting => ?_
          exact isNewest_iff fits order hp hlive hawaiting reply _
      · next hdead => simp [resume_of_not_isLive p.awaiting reply (by simpa using hdead), Turn.refuse]

/-! ## The last word -/

theorem verdict_reverse (past : History) (e : Event) :
    verdict past.reverse e = verdict past e := by
  simp [verdict, isNewest, completions]

theorem error_eq_told (moves : List Move) :
    (actor.run moves).state.view.error = told (actor.run moves).history.reverse := by
  refine Actor.run_induction (P := fun r : Run => r.state.view.error = told r.history.reverse)
    rfl ?_ moves
  intro moves e ih he
  have herror := error_eq_verdict (allFit_run moves) (listingsInOrder_run moves) he
  rw [he.before_eq, ih] at herror
  simp only [Run.extend, List.reverse_append, List.reverse_singleton, List.singleton_append,
    told, verdict_reverse]
  exact herror

/-- The events that say nothing about the error: starts of operations and changes, whatever
comes of them; requests that are sent, unless in answer to a creation; the answers to
overtaken listings; and calls that are turned away. -/
inductive TellsNothing (past : History) (e : Event) : Prop
  | start {task : Nat} {op : Operation} (h : e.cause = .start task op)
  | change {c : Change} (h : e.cause = .change c)
  | asks {request : Request} (h : e.request? = some request)
      (other : ∀ p reply, e.cause = .reply p reply → p.request.isCreate = false)
  | overtaken {c : Completion} (h : completionOf e = some c) (late : Overtaken past c)
  | rejected {error : OperationError} (h : e.result? = some (.error error))
      (cause : (∃ d, error = .validation d) ∨ (∃ slot, error = .busy slot) ∨ error = .detached)

theorem next_resume_error {s : Store} (live : s.isLive = true) {awaiting : Awaiting}
    {reply : Reply} {error : OperationError}
    (h : (s.resume awaiting reply).next = .finish (.error error)) :
    (∃ e, error = .transport e) ∨ ∃ name, error = .notFound name := by
  simp only [resume, live, if_true] at h
  cases awaiting with
  | listing number purpose =>
      simp only [resumeLive, Next.finish.injEq] at h
      cases purpose with
      | refresh => simp [Purpose.result] at h
      | fetch =>
          cases hsamples : reply.samples with
          | ok samples => simp [hsamples, Purpose.result, Except.mapError, Except.map] at h
          | error e =>
              simp only [hsamples, Purpose.result, Except.mapError, Except.map,
                Except.error.injEq] at h
              exact .inl ⟨e, h.symm⟩
  | lookup name =>
      simp only [resumeLive] at h
      split at h
      · simp at h
      · simp only [Next.finish.injEq, Except.error.injEq] at h
        exact .inr ⟨name, h.symm⟩
  | content =>
      simp only [resumeLive] at h
      split at h
      · simp at h
      · next e _ =>
          simp only [Next.finish.injEq, Except.error.injEq] at h
          exact .inl ⟨e, h.symm⟩
  | creation =>
      simp only [resumeLive] at h
      split at h
      · simp only [issueListing] at h
        split at h
        · simp at h
        · next hdead => exact absurd live hdead
      · next e =>
          simp only [Next.finish.injEq, Except.error.injEq] at h
          exact .inl ⟨e, h.symm⟩

theorem tells_of_asks {s : Store} {op : Operation} {asked request : Request}
    {awaiting next : Awaiting} {reply : Reply} (fits : Fits op asked awaiting)
    (other : asked.isCreate = false)
    (h : (s.resume awaiting reply).next = .ask request next) (newest : Bool) :
    tells newest op asked reply = none := by
  obtain ⟨hlive, ⟨name, rfl, -⟩ | ⟨body, number, rfl, -⟩⟩ := next_resume h
  · obtain ⟨rfl, rfl⟩ := fits
    simp only [resume, hlive, if_true, resumeLive] at h
    split at h
    · next id hid => simp [tells, hid, Except.toOption]
    · simp at h
  · obtain ⟨-, -, draft, -, rfl, -⟩ := fits
    simp [Request.isCreate] at other

theorem isNewest_of_overtaken {past : History} {e : Event} {c : Completion}
    (hc : completionOf e = some c) (late : Overtaken past c) : isNewest past e = false := by
  obtain ⟨d, hd, hlt⟩ := late
  rw [isNewest, hc, Option.all_some, List.all_eq_false]
  exact ⟨d, hd, by simpa using Nat.le_of_lt hlt⟩

theorem verdict_of_tellsNothing {r : Run} {e : Event} (fits : AllFit r)
    (he : actor.Possible r e) (h : TellsNothing r.history e) : verdict r.history e = none := by
  cases he with
  | start op => rfl
  | change c => rfl
  | reply p reply hp =>
      change (if r.state.isLive then _ else none) = none
      split
      · next hlive =>
          cases h with
          | start h => cases h
          | change h => cases h
          | asks hrequest other =>
              obtain ⟨next, hnext⟩ := Event.next_of_request? hrequest
              exact tells_of_asks (fits p hp) (other p reply rfl) hnext _
          | overtaken hc late =>
              obtain ⟨-, q, purpose, reply', hcause, -, hrequest, -⟩ := cause_of_completionOf hc
              cases hcause
              rw [isNewest_of_overtaken hc late, hrequest]
              rfl
          | rejected hresult cause =>
              rcases next_resume_error hlive (Event.next_of_result? hresult) with
                ⟨e, rfl⟩ | ⟨name, rfl⟩ <;> simp at cause
      · rfl

theorem request_of_lookup {r : Run} {e : Event} (he : actor.Possible r e) {task : Nat}
    {name : String} (hcause : e.cause = .start task (.fetchContent name))
    (live : e.before.isLive = true) : e.request? = some (.idOf name) := by
  cases he with
  | start op =>
      cases hcause
      have hlive : r.state.isLive = true := live
      simp [Event.request?, Event.ofTurn, actor, start, hlive, Next.request?]
  | reply p reply hp => cases hcause
  | change c => cases hcause

/-- The last event wins.  In every interleaving, the error of a store is what the latest
event that says anything about it says, and none if there was no such event; each event
leaves the error as it says, or else as it was.  A lookup by name that is started on a store
in use says nothing at first: it asks for the id. -/
theorem last_event_decides_error (moves : List Move) :
    let r := actor.run moves
    r.state.view.error = told r.history.reverse ∧
    ∀ past e later, r.history = past ++ e :: later →
      (∀ error, verdict past e = some error → e.after.view.error = error) ∧
      (verdict past e = none → e.after.view.error = e.before.view.error) ∧
      (TellsNothing past e → e.after.view.error = e.before.view.error) ∧
      ∀ task name, e.cause = .start task (.fetchContent name) → e.before.isLive = true →
        e.request? = some (.idOf name) := by
  refine ⟨error_eq_told moves, ?_⟩
  intro past e later hsplit
  obtain ⟨earlier, rfl, he⟩ := Actor.exists_run_before hsplit
  have hfits := allFit_run earlier
  have herror := error_eq_verdict hfits (listingsInOrder_run earlier) he
  refine ⟨?_, ?_, ?_, fun task name => request_of_lookup he⟩
  · intro error hverdict
    rw [herror, hverdict, Option.getD_some]
  · intro hverdict
    rw [herror, hverdict, Option.getD_none]
  · intro hnothing
    rw [herror, verdict_of_tellsNothing hfits he hnothing, Option.getD_none]

/-! ## Successes -/

theorem error_of_completionOf {moves : List Move} {e : Event} {c : Completion}
    (he : actor.Possible (actor.run moves) e) (hc : completionOf e = some c)
    {samples : List Sample} (hanswer : c.answer = .ok samples) :
    e.after.view.error =
      if Overtaken (actor.run moves).history c then e.before.view.error else none := by
  obtain ⟨hlive, p, purpose, reply, hcause, -, hrequest, -, hsamples⟩ := cause_of_completionOf hc
  rw [error_eq_verdict (allFit_run moves) (listingsInOrder_run moves) he]
  simp only [verdict, hcause, hlive, if_true, hrequest, tells, hsamples, hanswer, isNewest, hc,
    Option.all_some, overtaken_iff he hc, List.all_eq_true, decide_eq_true_eq]
  split
  · simp [Except.isOk, Except.toBool]
  · simp

theorem completionOf_of_fetched {r : Run} {e : Event} (fits : AllFit r)
    (he : actor.Possible r e) (live : r.state.isLive = true) (hop : e.op? = some .fetchAll)
    {answer : Answer} (hresult : e.result? = some (.ok answer)) :
    ∃ c samples, completionOf e = some c ∧ c.answer = .ok samples := by
  cases he with
  | change c => cases hop
  | start op =>
      obtain rfl : op = .fetchAll := Option.some.inj hop
      have hnext := Event.next_of_result? hresult
      change (r.state.issueListing .fetch).next = _ at hnext
      rw [issueListing_of_isLive .fetch live] at hnext
      cases hnext
  | reply p reply hp =>
      have hfit := fits p hp
      rw [show p.op = .fetchAll from Option.some.inj hop] at hfit
      have hnext := Event.next_of_result? hresult
      change (r.state.resume p.awaiting reply).next = _ at hnext
      cases hawaiting : p.awaiting with
      | lookup name => simp [hawaiting, Fits] at hfit
      | content => simp [hawaiting, Fits] at hfit
      | creation => simp [hawaiting, Fits] at hfit
      | listing number purpose =>
          have hc := completionOf_of_listing fits hp live hawaiting reply
            (actor.resume p.awaiting reply r.state)
          cases purpose with
          | refresh => simp [hawaiting, Fits] at hfit
          | fetch =>
              cases hsamples : reply.samples with
              | ok samples => exact ⟨_, samples, hc, hsamples⟩
              | error e =>
                  simp [hawaiting, resume, live, resumeLive, hsamples, Purpose.result,
                    Except.mapError, Except.map] at hnext

theorem error_of_loaded {r : Run} {e : Event} (fits : AllFit r) (order : ListingsInOrder r)
    (he : actor.Possible r e) (live : r.state.isLive = true) {name : String}
    (hop : e.op? = some (.fetchContent name)) {answer : Answer}
    (hresult : e.result? = some (.ok answer)) : e.after.view.error = none := by
  have herror := error_eq_verdict fits order he
  cases he with
  | change c => cases hop
  | start op =>
      obtain rfl : op = .fetchContent name := Option.some.inj hop
      have hnext := Event.next_of_result? hresult
      simp [actor, start, live] at hnext
  | reply p reply hp =>
      have hfit := fits p hp
      have hown : p.op = .fetchContent name := Option.some.inj hop
      rw [hown] at hfit
      have hnext := Event.next_of_result? hresult
      change (r.state.resume p.awaiting reply).next = _ at hnext
      rw [herror]
      cases hawaiting : p.awaiting with
      | listing number purpose => cases purpose <;> simp [hawaiting, Fits] at hfit
      | creation => simp [hawaiting, Fits] at hfit
      | lookup name' =>
          simp only [hawaiting, resume, live, if_true, resumeLive] at hnext
          split at hnext <;> simp at hnext
      | content =>
          simp only [hawaiting, resume, live, if_true, resumeLive] at hnext
          split at hnext
          · next code hcode =>
              obtain ⟨-, id, hrequest, -⟩ := hawaiting ▸ hfit
              simp [verdict, Event.ofTurn, live, hown, hrequest, tells, hcode, Except.isOk,
                Except.toBool]
          · simp at hnext

/-- A success takes the error away unless it comes too late.  In every interleaving, whenever
a listing of a store in use succeeds, of its own or as part of another operation, there is
no error afterwards, unless the listing was overtaken, which leaves the error as it was; and
whenever a sample was loaded by its name, there is no error afterwards. -/
theorem success_clears_error_unless_overtaken (moves : List Move) (past later : History)
    (e : Event) (h : (actor.run moves).history = past ++ e :: later)
    (live : e.before.isLive = true) :
    (∀ c samples, completionOf e = some c → c.answer = .ok samples →
      e.after.view.error = if Overtaken past c then e.before.view.error else none) ∧
    (∀ answer, e.op? = some .fetchAll → e.result? = some (.ok answer) →
      e.after.view.error = none ∨ ∃ c, completionOf e = some c ∧ Overtaken past c ∧
        e.after.view.error = e.before.view.error) ∧
    ∀ name answer, e.op? = some (.fetchContent name) → e.result? = some (.ok answer) →
      e.after.view.error = none := by
  obtain ⟨earlier, rfl, he⟩ := Actor.exists_run_before h
  rw [he.before_eq] at live
  have hfits := allFit_run earlier
  refine ⟨?_, ?_, ?_⟩
  · intro c samples hc hanswer
    exact error_of_completionOf he hc hanswer
  · intro answer hop hresult
    obtain ⟨c, samples, hc, hanswer⟩ := completionOf_of_fetched hfits he live hop hresult
    have herror := error_of_completionOf he hc hanswer
    split at herror
    · next hlate => exact .inr ⟨c, hc, hlate, herror⟩
    · exact .inl herror
  · intro name answer hop hresult
    exact error_of_loaded hfits (listingsInOrder_run earlier) he live hop hresult

def listingsAroundFailure : List Move :=
  [.start .fetchAll, .start .fetchAll, .reply 1 (.error ⟨some 500, "down"⟩),
    .reply 0 (.ok (.arr [])), .start .fetchAll, .reply 2 (.ok (.arr []))]

theorem success_clears_error_around_failure :
    ∃ e f, (actor.run listingsAroundFailure).history[3]? = some e ∧
      (actor.run listingsAroundFailure).history[5]? = some f ∧
      e.after.view.error = some .loadFailed ∧ f.before.view.error = some .loadFailed ∧
      f.after.view.error = none := by
  refine ⟨_, _, rfl, rfl, ?_, rfl, ?_⟩
  · have hkept := success_clears_error_unless_overtaken listingsAroundFailure
      [_, _, _] [_, _] _ rfl rfl
    exact hkept.1 _ [] rfl rfl
  · have hcleared := success_clears_error_unless_overtaken listingsAroundFailure
      [_, _, _, _, _] [] _ rfl rfl
    exact hcleared.1 _ [] rfl rfl

/-- A listing that succeeds after a later one has failed leaves the failure on display. -/
theorem success_keeps_error_when_overtaken :
    ¬ ∀ e ∈ (actor.run listingsAroundFailure).history, e.op? = some .fetchAll →
      e.before.isLive = true → e.result? = some (.ok .done) → e.after.view.error = none := by
  intro h
  have hlast := h _ (List.mem_of_getElem? (i := 3) rfl) rfl rfl rfl
  cases hlast

end Store

end CodeShelf
