import CodeShelf.Proofs.Store.Listing
import CodeShelf.Proofs.Traffic

/-!
# The moment of an answer

Between the moment at which the service answers a request and the moment at which the answer
arrives anything may happen.  What arrives is the answer that the data gave at the former, and
that moment lies before the latter.  So a listing that a store applies says exactly which
samples the service had when it read them.
-/

namespace CodeShelf

namespace Memory

def replyTo (request : Request) (m : Memory) : Reply :=
  match route request.call with
  | none => notFound request.call.path
  | some q =>
      if m.failing.contains q.endpoint then .error ⟨some 500, "injected failure"⟩
      else (m.answer q).2

theorem reply_of_passGate {q : Question} {m : Memory} {reply : Reply}
    (h : (m.passGate q).2 = .answered reply) :
    reply = if m.failing.contains q.endpoint then .error ⟨some 500, "injected failure"⟩
      else (m.answer q).2 := by
  simp only [passGate] at h
  split at h
  · cases h
  · split at h <;> cases h <;> simp_all

theorem reply_of_proceeding {request : Request} {q : Question} {m : Memory} {reply : Reply}
    (hq : route request.call = some q) (h : (m.passGate q).2 = .answered reply) :
    reply = m.replyTo request := by
  rw [replyTo, hq]
  exact reply_of_passGate h

theorem reply_answer_log (q : Question) (m : Memory) (calls : List LoggedCall) :
    ({ m with calls := calls }.answer q).2 = (m.answer q).2 := by
  cases q with
  | listing => rfl
  | idOf name =>
      simp only [answer]
      split <;> rfl
  | hello => rfl
  | content segment =>
      simp only [answer]
      split
      · rfl
      · split <;> rfl
  | create body =>
      simp only [answer]
      split <;> rfl
  | compile body =>
      simp only [answer]
      split
      · rfl
      · split <;> rfl

theorem reply_of_receiving {request : Request} {m : Memory} {reply : Reply}
    (h : (m.receive request.call).2 = .answered reply) : reply = m.replyTo request := by
  cases hroute : route request.call with
  | none =>
      simp only [receive, hroute] at h
      cases h
      simp only [replyTo, hroute]
  | some q =>
      simp only [receive, hroute] at h
      simp only [replyTo, hroute]
      split at h
      · cases h
      · rw [reply_of_passGate h]
        simp only [reply_answer_log]

end Memory

namespace Traffic

def HasAnswer (index : Nat) (p : Store.Pending) (reply : Reply) (t : Traffic) : Prop :=
  t.Awaits index p ∧ t.calls (.store index p.task) = some (.answered reply)

/-- Whether the service answers a request of a store with the move that follows the first
moves of a run: the answer is on its way then and was not before. -/
def AnsweredAfter (start : Traffic) (index : Nat) (p : Store.Pending) (reply : Reply)
    (first moves : List Move) : Prop :=
  ∃ m, first ++ [m] <+: moves ∧
    (∀ before, before <+: first → ¬ (start.after before).HasAnswer index p reply) ∧
    (start.after (first ++ [m])).HasAnswer index p reply

variable {index : Nat} {p : Store.Pending} {reply : Reply}

theorem Sound.reply_eq {t : Traffic} (sound : Sound t) {m : Move}
    (before : ¬ t.HasAnswer index p reply) (after : (t.step m).HasAnswer index p reply) :
    reply = t.memory.replyTo p.request := by
  obtain ⟨⟨r', hr', hp⟩, hanswered⟩ := after
  obtain ⟨r, hr⟩ := exists_store_of_step hr'
  cases seen_step hr m with
  | elsewhere store calls =>
      obtain rfl := Option.some.inj (store.symm.trans hr')
      exact absurd ⟨⟨r, hr, hp⟩, calls p.task _ hanswered⟩ before
  | proceeds task hold store held memory taken others =>
      obtain rfl := Option.some.inj (store.symm.trans hr')
      by_cases htask : p.task = task
      · subst htask
        have hroute : Memory.route p.request.call = some hold.question :=
          sound.carries index r hr p hp _ held
        exact Memory.reply_of_proceeding hroute (Option.some.inj (taken.symm.trans hanswered))
      · rw [others p.task htask] at hanswered
        exact absurd ⟨⟨r, hr, hp⟩, hanswered⟩ before
  | event move e he store answered sent others =>
      cases Option.some.inj (store.symm.trans hr')
      obtain ⟨moves, rfl⟩ := sound.runs index r hr
      rcases (Actor.numbered_run moves).waiting_cases (Actor.possible_of_event? he) hp with
        ⟨hold, hother⟩ | ⟨hopened, -⟩
      · exact absurd ⟨⟨_, hr, hold⟩, others p.task _ hother hanswered⟩ before
      · obtain ⟨-, taken⟩ := sent p hopened
        exact Memory.reply_of_receiving (Option.some.inj (taken.symm.trans hanswered))

theorem Sound.reply_of_answeredAfter {start : Traffic} (sound : Sound start)
    {first moves : List Move} (h : AnsweredAfter start index p reply first moves) :
    reply = (start.after first).memory.replyTo p.request := by
  obtain ⟨m, -, before, after⟩ := h
  rw [after_concat] at after
  exact (sound.after first).reply_eq (before first (List.prefix_refl first)) after

theorem AnsweredAfter.mono {start : Traffic} {first moves more : List Move}
    (h : AnsweredAfter start index p reply first moves) (hmore : moves <+: more) :
    AnsweredAfter start index p reply first more := by
  obtain ⟨m, hmoves, before, after⟩ := h
  exact ⟨m, hmoves.trans hmore, before, after⟩

theorem exists_answeredAfter {start : Traffic} (none : ¬ start.HasAnswer index p reply)
    {moves : List Move}
    (h : ∃ before, before <+: moves ∧ (start.after before).HasAnswer index p reply) :
    ∃ first, AnsweredAfter start index p reply first moves := by
  induction moves using List.reverseRecOn with
  | nil =>
      obtain ⟨before, hbefore, hanswer⟩ := h
      rw [List.prefix_nil.mp hbefore] at hanswer
      exact absurd hanswer none
  | append_singleton moves m ih =>
      by_cases hearlier : ∃ before, before <+: moves ∧ (start.after before).HasAnswer index p reply
      · obtain ⟨first, hfirst⟩ := ih hearlier
        exact ⟨first, hfirst.mono (List.prefix_append moves [m])⟩
      · obtain ⟨before, hbefore, hanswer⟩ := h
        rcases List.prefix_concat_iff.mp hbefore with rfl | hshorter
        · refine ⟨moves, m, List.prefix_refl _, ?_, hanswer⟩
          intro earlier hbefore hanswer'
          exact hearlier ⟨earlier, hbefore, hanswer'⟩
        · exact absurd ⟨before, hshorter, hanswer⟩ hearlier

theorem exists_hasAnswer {start : Traffic} (fresh : ∀ r, start.stores[index]? = some r →
    r.history = []) {moves : List Move} {r : Store.Run}
    (hr : (start.after moves).stores[index]? = some r) {e : Store.Event} (he : e ∈ r.history)
    (hcause : e.cause = .reply p reply) :
    ∃ before, before <+: moves ∧ (start.after before).HasAnswer index p reply := by
  induction moves using List.reverseRecOn generalizing r with
  | nil => simp [fresh r hr] at he
  | append_singleton moves m ih =>
      have hmoves := List.prefix_append moves [m]
      have past : ∀ r, (start.after moves).stores[index]? = some r → e ∈ r.history →
          ∃ before, before <+: moves ++ [m] ∧
            (start.after before).HasAnswer index p reply := by
        intro r hr he
        obtain ⟨before, hbefore, hanswer⟩ := ih hr he
        exact ⟨before, hbefore.trans hmoves, hanswer⟩
      rw [after_concat] at hr
      obtain ⟨r₀, hr₀⟩ := exists_store_of_step hr
      cases seen_step hr₀ m with
      | elsewhere store calls =>
          cases Option.some.inj (store.symm.trans hr)
          exact past _ hr₀ he
      | proceeds task hold store held memory taken others =>
          cases Option.some.inj (store.symm.trans hr)
          exact past _ hr₀ he
      | event move e' he' store answered sent others =>
          cases Option.some.inj (store.symm.trans hr)
          rcases List.mem_append.mp he with hold | hnew
          · exact past _ hr₀ hold
          · cases List.mem_singleton.mp hnew
            have hp := (Actor.possible_of_event? he').mem_waiting hcause
            exact ⟨moves, hmoves, ⟨r₀, hr₀, hp⟩, answered p reply hcause⟩

theorem history_of_fresh {samples : List (String × String)} {stores sessions index : Nat}
    {r : Store.Run} (hr : (fresh samples stores sessions).stores[index]? = some r) :
    r.history = [] := by
  rw [(List.mem_replicate.mp (List.mem_of_getElem? hr)).2]
  rfl

theorem not_hasAnswer_fresh (samples : List (String × String)) (stores sessions : Nat) :
    ¬ (fresh samples stores sessions).HasAnswer index p reply := by
  rintro ⟨⟨r, hr, hp⟩, -⟩
  rw [(List.mem_replicate.mp (List.mem_of_getElem? hr)).2] at hp
  cases hp

theorem exists_moment {samples : List (String × String)} {stores sessions : Nat}
    {moves : List Move} {r : Store.Run}
    (hr : ((fresh samples stores sessions).after moves).stores[index]? = some r)
    {e : Store.Event} (he : e ∈ r.history) (hcause : e.cause = .reply p reply) :
    ∃ first, AnsweredAfter (fresh samples stores sessions) index p reply first moves :=
  exists_answeredAfter (not_hasAnswer_fresh samples stores sessions)
    (exists_hasAnswer (fun _ => history_of_fresh) hr he hcause)

/-! ## Listings -/

theorem samples_of_listing {m : Memory} (ids : m.IdsInOrder) {l : List Sample}
    (h : (m.replyTo .listing).samples = .ok l) : l = m.samples := by
  change Reply.samples (if m.failing.contains .listSamples then _ else .ok m.listing) = _ at h
  split at h
  · cases h
  · rw [Reply.samples, Memory.readListing_listing ids] at h
    cases h
    rfl

/-- Listings are faithful.  Whatever was done to the service and to those who use it, reading
its listing gives exactly its samples in their order, in every shape.  The answer to a listing
is applied exactly if the store has completed no listing before that it asked for later; and
if the listing succeeded, the samples of the store then become those that the service had at
the moment at which it answered. -/
theorem listings_are_faithful (samples : List (String × String)) (stores sessions : Nat)
    (moves : List Move) :
    let start := fresh samples stores sessions
    let t := start.after moves
    (∀ shape, Wire.readListing { t.memory with shape := shape }.listing = .ok t.memory.samples) ∧
      ∀ (index : Nat) r, t.stores[index]? = some r → ∀ past e later c,
        r.history = past ++ e :: later → Store.completionOf e = some c →
          (Store.isApplied e = true ↔ ∀ d ∈ Store.completions past, d.number < c.number) ∧
          ∀ l, c.answer = .ok l → (∀ d ∈ Store.completions past, d.number < c.number) →
            ∃ p reply first, e.cause = .reply p reply ∧ p.request = .listing ∧
              AnsweredAfter start index p reply first moves ∧
              e.after.view.samples = (start.after first).memory.samples := by
  intro start t
  have sound : Sound start := sound_fresh samples stores sessions
  constructor
  · intro shape
    exact Memory.readListing_listing (m := { t.memory with shape := shape }) (sound.after moves).ids
  · intro index r hr past e later c hsplit hc
    have he : e ∈ r.history := hsplit ▸ List.mem_append_right past List.mem_cons_self
    obtain ⟨own, rfl⟩ := (sound.after moves).runs index r hr
    obtain ⟨earlier, rfl, hpossible⟩ := Actor.exists_run_before hsplit
    have settles := Store.settlesInOrder_of_possible (Store.allFit_run earlier)
      (Store.listingsInOrder_run earlier) hpossible hc
    refine ⟨settles.applied_iff, fun l hanswer newest => ?_⟩
    obtain ⟨-, p, purpose, reply, hcause, -, hrequest, -, hsamples⟩ :=
      Store.cause_of_completionOf hc
    obtain ⟨first, hmoment⟩ := exists_moment hr he hcause
    refine ⟨p, reply, first, hcause, hrequest, hmoment, ?_⟩
    have hreply := sound.reply_of_answeredAfter hmoment
    rw [hreply, hrequest, hanswer] at hsamples
    rw [settles.shows (settles.applied_iff.mpr newest) l hanswer]
    exact samples_of_listing (sound.after first).ids hsamples

end Traffic

end CodeShelf
