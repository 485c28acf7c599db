import CodeShelf.Proofs.Store.Listing
import CodeShelf.Proofs.Traffic

/-!
# Additions stay in view

A store that has taken in that its sample was created asks for a listing.  The service
reads every listing of that number or a later one after the creation, whatever order
the answers arrive in.  So from the moment at which one of them is shown the sample is
in view, for as long as the service has it.
-/

namespace CodeShelf

theorem Draft.eq_of_check {name code : String} {d : Draft} (h : Draft.check name code = .ok d) :
    d = ⟨name, code⟩ := by
  simp only [check] at h
  split at h
  · cases h
  · split at h
    · cases h
    · cases h
      rfl

theorem Store.next_resume_creation {s : Store} (h : s.isLive = true) (body : Json) :
    (s.resume .creation (.ok body)).next =
      .ask .listing (.listing (s.issued + 1) .refresh) := by
  rw [resume, if_pos h, resumeLive, issueListing_of_isLive]
  exact h

namespace Traffic

structure TakesCreation (e : Store.Event) (p : Store.Pending) (body : Json) : Prop where
  live : e.before.isLive = true
  cause : e.cause = .reply p (.ok body)
  creation : p.awaiting = .creation

structure Adds (e : Store.Event) (p : Store.Pending) (body : Json) (s : Sample) (k : Nat) :
    Prop where
  op : p.op = .addSample s.name s.code
  body : body = s.toJson
  next : e.next = some (.ask .listing (.listing k .refresh))

/-- A listing of the given number or a later one, once it is answered, has the sample
unless the service has lost it. -/
def Includes (s : Sample) (k : Nat) (m : Memory) (p : Store.Pending) : Progress HeldCall → Prop
  | .held _ => True
  | .answered reply => ∀ number purpose l, p.awaiting = .listing number purpose → k ≤ number →
      reply.samples = .ok l → s ∈ m.samples → s ∈ l

/-- How a sample stands with a store that has asked for the listing of the given number
since the sample was created. -/
structure InView (index : Nat) (s : Sample) (k : Nat) (t : Traffic) : Prop where
  known : t.memory.Known s
  kept : s.id ∈ t.removed ∨ s ∈ t.memory.samples
  calls : t.EachCall index (Includes s k t.memory)
  shown : ∀ r, t.stores[index]? = some r → ∀ l ∈ (Store.shown r.history).getLast?,
    k ≤ l.1 → s ∈ t.memory.samples → s ∈ l.2

theorem Sound.fits {t : Traffic} (h : Sound t) {index : Nat} {p : Store.Pending}
    (hp : t.Awaits index p) : Store.Fits p.op p.request p.awaiting := by
  obtain ⟨r, hr, hmem⟩ := hp
  obtain ⟨moves, rfl⟩ := h.runs index r hr
  exact Store.allFit_run moves p hmem

theorem includes_of_reports {m : Memory} {p : Store.Pending} {progress : Progress HeldCall}
    (reports : m.Reports p.request progress) (fits : Store.Fits p.op p.request p.awaiting)
    (s : Sample) (k : Nat) : Includes s k m p progress := by
  cases progress with
  | held hold => trivial
  | answered reply =>
      intro number purpose l hawaiting _ hl hs
      have hrequest : p.request = .listing := by
        rw [hawaiting] at fits
        cases purpose <;> exact fits.1
      rwa [reports.1 hrequest l hl]

theorem includes_of_lt {p : Store.Pending} {k : Nat}
    (h : ∀ number purpose, p.awaiting = .listing number purpose → number < k)
    (s : Sample) (m : Memory) (progress : Progress HeldCall) : Includes s k m p progress := by
  cases progress with
  | held hold => trivial
  | answered reply =>
      intro number purpose l hawaiting hk
      exact absurd hk (Nat.not_le_of_lt (h number purpose hawaiting))

theorem InView.step {index : Nat} {s : Sample} {k : Nat} {t : Traffic} (sound : Sound t)
    (h : InView index s k t) (m : Move) : InView index s k (t.step m) := by
  have hfollows := t.follows_step m
  have hsound := sound.step m
  refine ⟨hfollows.known h.known, hfollows.removed_or_mem h.kept, ?_, ?_⟩
  · have hcalls : t.EachCall index fun p progress =>
        Includes s k t.memory p progress ∧ t.Carries p.request progress := by
      intro r hr p hp progress hprogress
      exact ⟨h.calls r hr p hp progress hprogress, sound.carries index r hr p hp progress hprogress⟩
    refine hcalls.step m (sound.runs index) ?_ ?_ ?_
    · rintro p progress ⟨hincludes, -⟩
      cases progress with
      | held hold => trivial
      | answered reply =>
          intro number purpose l hawaiting hk hl hs
          exact hincludes number purpose l hawaiting hk hl (hfollows.mem_of_known h.known hs)
    · rintro p hold hp ⟨-, hheld⟩ hmemory
      apply includes_of_reports _ (hsound.fits hp)
      rw [hmemory]
      exact Memory.reports_passGate sound.ids hheld
    · intro p hp hmemory
      apply includes_of_reports _ (hsound.fits hp)
      rw [hmemory]
      exact Memory.reports_receive p.request sound.ids
  · intro r' hr' l hl hk hs
    have hs := hfollows.mem_of_known h.known hs
    obtain ⟨r, hr⟩ := exists_store_of_step hr'
    cases seen_step hr m with
    | elsewhere store calls =>
        cases Option.some.inj (store.symm.trans hr')
        exact h.shown _ hr l hl hk hs
    | proceeds task hold store held memory taken others =>
        cases Option.some.inj (store.symm.trans hr')
        exact h.shown _ hr l hl hk hs
    | event move e he store answered sent others =>
        cases Option.some.inj (store.symm.trans hr')
        rw [Store.shown_extend] at hl
        cases hshown : Store.shownOf e with
        | none =>
            rw [hshown, Option.toList_none, List.append_nil] at hl
            exact h.shown r hr l hl hk hs
        | some l' =>
            rw [hshown, Option.toList_some, List.getLast?_concat] at hl
            obtain rfl : l' = l := by simpa using hl
            -- The listing that comes into view was an answer under way.
            obtain ⟨p, purpose, reply, hcause, hawaiting, hreply⟩ := Store.cause_of_shownOf hshown
            have hp := (Actor.possible_of_event? he).mem_waiting hcause
            exact h.calls r hr p hp _ (answered p reply hcause) l'.1 purpose l'.2 hawaiting hk
              hreply hs

theorem exists_inView {index : Nat} {r : Store.Run} {t : Traffic} {m : Move} {e : Store.Event}
    {p : Store.Pending} {body : Json} (sound : Sound t) (hr : t.stores[index]? = some r)
    (store : (t.step m).stores[index]? = some (r.extend e)) (he : Store.actor.Possible r e)
    (answered : t.calls (.store index p.task) = some (.answered (.ok body)))
    (h : TakesCreation e p body) :
    ∃ s k, Adds e p body s k ∧ InView index s k (t.step m) := by
  have hfollows := t.follows_step m
  have hsound := sound.step m
  have hp := he.mem_waiting h.cause
  have hfits := sound.fits ⟨r, hr, hp⟩
  rw [h.creation] at hfits
  obtain ⟨name, code, draft, hdraft, hrequest, hop⟩ := hfits
  obtain rfl := Draft.eq_of_check hdraft
  obtain ⟨s, known, kept, rfl, rfl, rfl⟩ :=
    sound.carries index r hr p hp _ answered _ _ hrequest rfl
  have hlive : r.state.isLive = true := he.before_eq ▸ h.live
  obtain ⟨moves, rfl⟩ := sound.runs index r hr
  have horder := Store.listingsInOrder_run moves
  have happlied := Store.applied_le_issued moves
  generalize Store.actor.run moves = r at *
  have hnext : e.next = some (.ask .listing (.listing (r.state.issued + 1) .refresh)) := by
    cases he with
    | start op => cases h.cause
    | change c => cases h.cause
    | reply q reply hq =>
        cases h.cause
        rw [h.creation]
        exact congrArg some (Store.next_resume_creation hlive _)
  have hshown : Store.shownOf e = none := by
    cases hshown : Store.shownOf e with
    | none => rfl
    | some l =>
        obtain ⟨q, purpose, reply, hcause, hawaiting, -⟩ := Store.cause_of_shownOf hshown
        cases h.cause.symm.trans hcause
        cases h.creation.symm.trans hawaiting
  refine ⟨s, r.state.issued + 1, ⟨hop, rfl, hnext⟩, hfollows.known known,
    hfollows.removed_or_mem kept, ?_, ?_⟩
  · -- Every listing that was under way before has a smaller number.
    have hcalls : t.EachCall index fun p _ => ∀ number purpose,
        p.awaiting = .listing number purpose → number < r.state.issued + 1 := by
      intro r' hr' p hp progress _ number purpose hawaiting
      cases Option.some.inj (hr.symm.trans hr')
      exact Nat.lt_succ_of_le (horder.waiting p hp number purpose hawaiting).2
    refine hcalls.step m (sound.runs index) ?_ ?_ ?_
    · intro p progress hnumber
      exact includes_of_lt hnumber _ _ _
    · intro p hold _ hnumber _
      exact includes_of_lt hnumber _ _ _
    · intro p hp hmemory
      apply includes_of_reports _ (hsound.fits hp)
      rw [hmemory]
      exact Memory.reports_receive p.request sound.ids
  · intro r' hr' l hl hk
    cases Option.some.inj (store.symm.trans hr')
    rw [Store.shown_extend, hshown, Option.toList_none, List.append_nil] at hl
    have hle := horder.shown_le l (List.mem_of_mem_getLast? hl)
    omega

theorem inView_of_takesCreation {samples : List (String × String)} {stores sessions : Nat}
    (moves : List Move) {index : Nat} {r : Store.Run}
    (hr : ((fresh samples stores sessions).after moves).stores[index]? = some r)
    {e : Store.Event} (he : e ∈ r.history) {p : Store.Pending} {body : Json}
    (h : TakesCreation e p body) :
    ∃ s k, Adds e p body s k ∧ InView index s k ((fresh samples stores sessions).after moves) := by
  induction moves using List.reverseRecOn generalizing r with
  | nil =>
      rw [(List.mem_replicate.mp (List.mem_of_getElem? hr)).2] at he
      simp [Actor.initial] at he
  | append_singleton moves m ih =>
      rw [after_concat] at hr ⊢
      have sound := (sound_fresh samples stores sessions).after moves
      have past : ∀ r, ((fresh samples stores sessions).after moves).stores[index]? = some r →
          e ∈ r.history → ∃ s k, Adds e p body s k ∧
            InView index s k (((fresh samples stores sessions).after moves).step m) := by
        intro r hr he
        obtain ⟨s, k, hadds, hview⟩ := ih hr he
        exact ⟨s, k, hadds, hview.step sound m⟩
      obtain ⟨r₀, hr₀⟩ := exists_store_of_step hr
      cases seen_step hr₀ m with
      | elsewhere store calls =>
          cases Option.some.inj (store.symm.trans hr)
          exact past _ hr₀ he
      | proceeds task hold store held memory taken others =>
          cases Option.some.inj (store.symm.trans hr)
          exact past _ hr₀ he
      | event move e' he' store answered sent others =>
          cases Option.some.inj (store.symm.trans hr)
          rcases List.mem_append.mp he with hold | hnew
          · exact past _ hr₀ hold
          · cases List.mem_singleton.mp hnew
            exact exists_inView sound hr₀ store (Actor.possible_of_event? he')
              (answered p _ h.cause) h

theorem InView.after {index : Nat} {s : Sample} {k : Nat} {t : Traffic} (sound : Sound t)
    (h : InView index s k t) (moves : List Move) : InView index s k (t.after moves) := by
  induction moves using List.reverseRecOn with
  | nil => exact h
  | append_singleton moves m ih =>
      rw [after_concat]
      exact ih.step (sound.after moves) m

theorem InView.mem_samples {index : Nat} {s : Sample} {k : Nat} {t : Traffic} {r : Store.Run}
    (sound : Sound t) (h : InView index s k t) (hr : t.stores[index]? = some r)
    (hshown : ∃ l ∈ Store.shown r.history, k ≤ l.1) (hs : s ∈ t.memory.samples) :
    s ∈ r.state.view.samples := by
  obtain ⟨moves, hrun⟩ := sound.runs index r hr
  have horder : Store.ListingsInOrder r := hrun ▸ Store.listingsInOrder_run moves
  obtain ⟨l, hl, hk⟩ := hshown
  obtain ⟨earlier, last, hlast⟩ : ∃ earlier last, Store.shown r.history = earlier ++ [last] := by
    rcases List.eq_nil_or_concat (Store.shown r.history) with hnil | ⟨earlier, last, hlast⟩
    · simp [hnil] at hl
    · exact ⟨earlier, last, by rw [hlast, List.concat_eq_append]⟩
  have hle : l.1 ≤ last.1 := by
    have hincreasing := horder.increasing
    rw [hlast, List.map_append, List.pairwise_append] at hincreasing
    rw [hlast] at hl
    rcases List.mem_append.mp hl with hearlier | hsame
    · exact Nat.le_of_lt (hincreasing.2.2 l.1 (List.mem_map_of_mem hearlier) last.1 (by simp))
    · exact Nat.le_of_eq (congrArg _ (List.mem_singleton.mp hsame))
  have hgetLast : (Store.shown r.history).getLast? = some last := by
    rw [hlast, List.getLast?_concat]
  rw [horder.samples, hgetLast]
  exact h.shown r hr last hgetLast (Nat.le_trans hk hle) hs

/-- Whatever a store adds, it sees.  In every order of events, a store in use that takes
in that the sample of an addition was created has got the record of that sample, which
the service keeps until it is removed, and asks for a listing.  If the last listing that
is shown has the number of that one or a later one, the sample is in view unless the
service has lost it; and once such a listing was shown, this stays so for good. -/
theorem additions_stay_in_view (samples : List (String × String)) (stores sessions : Nat)
    (moves : List Move) (index : Nat) (r : Store.Run) (e : Store.Event) (p : Store.Pending)
    (body : Json) (hr : ((fresh samples stores sessions).after moves).stores[index]? = some r)
    (he : e ∈ r.history) (h : TakesCreation e p body) :
    let t := (fresh samples stores sessions).after moves
    ∃ s k, Adds e p body s k ∧
      (s.id ∈ t.removed ∨ s ∈ t.memory.samples) ∧
      (∀ l, (Store.shown r.history).getLast? = some l → k ≤ l.1 → s ∈ t.memory.samples →
        s ∈ r.state.view.samples) ∧
      ((∃ l ∈ Store.shown r.history, k ≤ l.1) → ∀ later r',
        (t.after later).stores[index]? = some r' → s ∈ (t.after later).memory.samples →
          s ∈ r'.state.view.samples) := by
  have sound := (sound_fresh samples stores sessions).after moves
  obtain ⟨s, k, hadds, hview⟩ := inView_of_takesCreation moves hr he h
  refine ⟨s, k, hadds, hview.kept, ?_, ?_⟩
  · intro l hl hk hs
    exact hview.mem_samples sound hr ⟨l, List.mem_of_mem_getLast? hl, hk⟩ hs
  · rintro ⟨l, hl, hk⟩ later r' hr' hs
    obtain ⟨more, hmore⟩ := history_after later hr hr'
    refine (hview.after sound later).mem_samples (sound.after later) hr' ⟨l, ?_, hk⟩ hs
    rw [hmore, Store.shown, List.filterMap_append]
    exact List.mem_append_left _ hl

/-- A run in which the listing of an attachment arrives last: the one after an addition
has overtaken it. -/
def overtaken : List Move :=
  [.control (.gate .listSamples), .act (.store 0 .attach),
    .act (.store 0 (.addSample "loop" "+[]")), .deliver (.store 0 1), .proceed (.store 0 1),
    .deliver (.store 0 1), .proceed (.store 0 0), .deliver (.store 0 0)]

theorem additions_stay_in_view_overtaken :
    ∃ r e p body s, ((fresh [] 1 0).after overtaken).stores[0]? = some r ∧ e ∈ r.history ∧
      TakesCreation e p body ∧ Adds e p body s 2 ∧ s ∈ r.state.view.samples := by
  have hlt : 0 < ((fresh [] 1 0).after overtaken).stores.length := by decide +kernel
  have hcreated : ∀ r ∈ ((fresh [] 1 0).after overtaken).stores, r.history.any (fun e =>
      e.before.isLive &&
        e.cause.casesOn (fun _ _ => false) (fun p reply => p.awaiting == .creation && reply.isOk)
          (fun _ => false) &&
        e.opened.map (·.awaiting) == [.listing 2 .refresh]) = true := by decide +kernel
  have hshown : ∀ r ∈ ((fresh [] 1 0).after overtaken).stores,
      (Store.shown r.history).getLast?.map (·.1) = some 2 := by decide +kernel
  have hremoved : ((fresh [] 1 0).after overtaken).removed = [] := by decide +kernel
  have hr := List.getElem?_eq_getElem hlt
  have hmem := List.mem_of_getElem? hr
  obtain ⟨e, he, hevent⟩ := List.any_eq_true.mp (hcreated _ hmem)
  simp only [Bool.and_eq_true, beq_iff_eq] at hevent
  obtain ⟨⟨hlive, hreply⟩, hopened⟩ := hevent
  cases hcause : e.cause with
  | start task op => simp [hcause] at hreply
  | change c => simp [hcause] at hreply
  | reply p reply =>
      simp only [hcause, Bool.and_eq_true, beq_iff_eq] at hreply
      cases reply with
      | error error => simp [Except.isOk, Except.toBool] at hreply
      | ok body =>
          have htakes : TakesCreation e p body := ⟨hlive, hcause, hreply.1⟩
          obtain ⟨s, k, hadds, hkept, hview, -⟩ :=
            additions_stay_in_view [] 1 0 overtaken 0 _ e p body hr he htakes
          obtain rfl : k = 2 := by
            simpa [Event.opened, hcause, hadds.next, Next.pending] using hopened
          obtain ⟨l, hl, hnumber⟩ := Option.map_eq_some_iff.mp (hshown _ hmem)
          have hs := hkept.resolve_left (by simp [hremoved])
          have hin := hview l hl (Nat.le_of_eq hnumber.symm) hs
          exact ⟨_, e, p, body, s, hr, he, htakes, hadds, hin⟩

end Traffic

end CodeShelf
