import CodeShelf.Proofs.Store.Turns

/-!
# Overlapping listings

Listings are numbered in the order in which they are asked for, and their answers come
in any order.  An answer is applied exactly if its number is greater than that of every
listing answered before, so the samples of a store are always those of the latest
listing among the ones that were applied, and they never go back to an older listing.
-/

namespace CodeShelf.Store

/-! ## What a history says about listings -/

def listingsAsked (h : History) : List Awaiting :=
  h.filterMap fun e =>
    match e.next with
    | some (.ask .listing awaiting) => some awaiting
    | _ => none

/-- A listing whose answer found the store in use: the operation it belongs to, its
number, and what the answer says. -/
structure Completion where
  op : Operation
  number : Nat
  answer : Except CallError (List Sample)

def completionOf (e : Event) : Option Completion :=
  match e.cause with
  | .reply ⟨_, op, .listing, .listing number _⟩ reply =>
      if e.before.isLive then some ⟨op, number, reply.samples⟩ else none
  | _ => none

def completions (h : History) : List Completion :=
  h.filterMap completionOf

def isApplied (e : Event) : Bool :=
  e.after.applied != e.before.applied

def shownOf (e : Event) : Option (Nat × List Sample) :=
  match completionOf e with
  | some ⟨_, number, .ok samples⟩ => if isApplied e then some (number, samples) else none
  | _ => none

def shown (h : History) : List (Nat × List Sample) :=
  h.filterMap shownOf

def lastNumber (cs : List Completion) : Nat :=
  cs.foldl (fun n c => max n c.number) 0

theorem cause_of_completionOf {e : Event} {c : Completion} (h : completionOf e = some c) :
    e.before.isLive = true ∧ ∃ p purpose reply, e.cause = .reply p reply ∧ p.op = c.op ∧
      p.request = .listing ∧ p.awaiting = .listing c.number purpose ∧
        reply.samples = c.answer := by
  unfold completionOf at h
  split at h
  · next task op number purpose reply hcause =>
      obtain ⟨hlive, hc⟩ := Option.ite_none_right_eq_some.mp h
      simp only [Option.some.injEq] at hc
      subst hc
      exact ⟨hlive, _, purpose, reply, hcause, rfl, rfl, rfl, rfl⟩
  · simp at h

theorem lastNumber_concat (cs : List Completion) (c : Completion) :
    lastNumber (cs ++ [c]) = max (lastNumber cs) c.number := by
  simp [lastNumber]

theorem lastNumber_lt_iff {cs : List Completion} {n : Nat} (hn : 0 < n) :
    lastNumber cs < n ↔ ∀ c ∈ cs, c.number < n := by
  induction cs using List.reverseRecOn with
  | nil => simpa [lastNumber] using hn
  | append_singleton cs c ih =>
      rw [lastNumber_concat, Nat.max_lt, ih]
      simp [or_imp, forall_and]

/-! ## One listing is settled -/

theorem applied_settleListing (number : Nat) (answer : Except CallError (List Sample))
    (s : Store) : (s.settleListing number answer).applied = max s.applied number := by
  simp only [settleListing, applyListing]
  split
  · next h => exact (Nat.max_eq_left h).symm
  · next h =>
      have hmax : max s.applied number = number := Nat.max_eq_right (Nat.le_of_not_le h)
      cases answer <;> exact hmax.symm

theorem samples_settleListing_error (number : Nat) (e : CallError) (s : Store) :
    (s.settleListing number (.error e)).view.samples = s.view.samples := by
  simp only [settleListing, applyListing]
  split <;> rfl

theorem samples_settleListing_ok (number : Nat) (samples : List Sample) (s : Store) :
    (s.settleListing number (.ok samples)).view.samples =
      if number ≤ s.applied then s.view.samples else samples := by
  simp only [settleListing, applyListing]
  split <;> rfl

/-! ## One event -/

theorem listing_start (op : Operation) (s : Store) :
    (s.start op).state.applied = s.applied ∧
      (s.start op).state.view.samples = s.view.samples := by
  cases op with
  | attach =>
      simp only [start]
      split <;> simp [Turn.refuse]
  | fetchAll => simp [start]
  | fetchContent name =>
      simp only [start]
      split <;> simp [Turn.refuse]
  | addSample name code =>
      simp only [start]
      split
      · simp [Turn.refuse]
      · split
        · split <;> simp [Turn.refuse]
        · simp [Turn.refuse]

theorem listing_change (c : Change) (s : Store) :
    (s.change c).1.applied = s.applied ∧ (s.change c).1.view.samples = s.view.samples := by
  simp only [change]
  split
  · cases c <;> simp
  · simp

theorem listing_resume {s : Store} {awaiting : Awaiting} (reply : Reply)
    (h : s.isLive = true → ∀ number purpose, awaiting ≠ .listing number purpose) :
    (s.resume awaiting reply).state.applied = s.applied ∧
      (s.resume awaiting reply).state.view.samples = s.view.samples := by
  simp only [resume]
  split
  · next hs =>
      cases awaiting with
      | listing number purpose => exact absurd rfl (h hs number purpose)
      | lookup name =>
          simp only [resumeLive]
          split <;> simp [withError]
      | content =>
          simp only [resumeLive]
          split <;> simp [withError]
      | creation =>
          simp only [resumeLive]
          split <;> simp
  · simp [Turn.refuse]

structure Settles (r : Run) (e : Event) (c : Completion) (purpose : Purpose) : Prop where
  under_way : ∃ p ∈ r.waiting, p.op = c.op ∧ p.awaiting = .listing c.number purpose
  after : e.after = e.before.settleListing c.number c.answer
  next : e.next = some (.finish
    (purpose.result ((c.answer.mapError .transport).map fun _ => .done)))

theorem settles_of_completionOf {r : Run} {e : Event} {c : Completion}
    (he : actor.Possible r e) (hc : completionOf e = some c) :
    ∃ purpose, Settles r e c purpose := by
  cases he with
  | start op => cases hc
  | change c => cases hc
  | reply p reply hp =>
      simp only [completionOf, Event.ofTurn] at hc
      split at hc
      · next task op number purpose _ hcause =>
          cases hcause
          obtain ⟨hlive, hsome⟩ := Option.ite_none_right_eq_some.mp hc
          cases hsome
          refine ⟨purpose, ⟨_, hp, rfl, rfl⟩, ?_, ?_⟩ <;>
            simp [Event.ofTurn, actor, resume, hlive, resumeLive]
      · cases hc

theorem keeps_of_completionOf_eq_none {r : Run} {e : Event} (fits : AllFit r)
    (he : actor.Possible r e) (hc : completionOf e = none) :
    e.after.applied = e.before.applied ∧ e.after.view.samples = e.before.view.samples := by
  cases he with
  | start op => exact listing_start op r.state
  | change c => exact listing_change c r.state
  | reply p reply hp =>
      apply listing_resume reply
      intro hlive number purpose hawaiting
      have hrequest := fits.request_eq hp hawaiting
      obtain ⟨task, op, request, awaiting⟩ := p
      subst hrequest hawaiting
      simp [completionOf, Event.ofTurn, hlive] at hc

theorem Settles.isApplied_iff {r : Run} {e : Event} {c : Completion} {purpose : Purpose}
    (h : Settles r e c purpose) : isApplied e = true ↔ e.before.applied < c.number := by
  rw [isApplied, h.after, applied_settleListing, bne_iff_ne]
  grind

theorem Settles.applied_eq {r : Run} {e : Event} {c : Completion} {purpose : Purpose}
    (h : Settles r e c purpose) (happ : isApplied e = true) : e.after.applied = c.number := by
  rw [h.after, applied_settleListing]
  exact Nat.max_eq_right (Nat.le_of_lt (h.isApplied_iff.mp happ))

theorem Settles.samples_eq {r : Run} {e : Event} {c : Completion} {purpose : Purpose}
    (h : Settles r e c purpose) (happ : isApplied e = true) {samples : List Sample}
    (hanswer : c.answer = .ok samples) : e.after.view.samples = samples := by
  rw [h.after, hanswer, samples_settleListing_ok,
    if_neg (Nat.not_le_of_lt (h.isApplied_iff.mp happ))]

theorem Settles.samples_keep {r : Run} {e : Event} {c : Completion} {purpose : Purpose}
    (h : Settles r e c purpose)
    (hkeep : isApplied e = false ∨ ∃ error, c.answer = .error error) :
    e.after.view.samples = e.before.view.samples := by
  cases hanswer : c.answer with
  | error error => rw [h.after, hanswer, samples_settleListing_error]
  | ok samples =>
      rcases hkeep with happ | ⟨error, herror⟩
      · have hstale : ¬ e.before.applied < c.number := by
          rw [← h.isApplied_iff, happ]
          decide
        rw [h.after, hanswer, samples_settleListing_ok, if_pos (Nat.le_of_not_lt hstale)]
      · cases hanswer.symm.trans herror

theorem Settles.result_iff {r : Run} {e : Event} {c : Completion} {purpose : Purpose}
    (h : Settles r e c purpose) :
    e.result? = some (.ok .done) ↔ purpose = .refresh ∨ ∃ samples, c.answer = .ok samples := by
  rw [Event.result?, h.next]
  cases purpose <;> cases c.answer <;>
    simp [Next.result?, Purpose.result, Except.mapError, Except.map]

theorem Settles.fits {r : Run} {e : Event} {c : Completion} {purpose : Purpose}
    (h : Settles r e c purpose) (fits : AllFit r) :
    Fits c.op .listing (.listing c.number purpose) := by
  obtain ⟨p, hp, hop, hawaiting⟩ := h.under_way
  have hfits := fits p hp
  rwa [fits.request_eq hp hawaiting, hop, hawaiting] at hfits

/-! ## Runs -/

/-- How the listings of a run stand: they are numbered in the order of asking, the
store remembers the greatest number that was answered, and it shows the last listing
that was applied. -/
structure ListingsInOrder (r : Run) : Prop where
  asked : ∃ purposes : List Purpose,
    listingsAsked r.history = purposes.mapIdx fun i p => .listing (i + 1) p
  issued : r.state.isLive = true → r.state.issued = (listingsAsked r.history).length
  waiting : ∀ p ∈ r.waiting, ∀ number purpose, p.awaiting = .listing number purpose →
    0 < number ∧ number ≤ r.state.issued
  applied : r.state.applied = lastNumber (completions r.history)
  samples : r.state.view.samples = ((shown r.history).getLast?.map (·.2)).getD []
  increasing : ((shown r.history).map (·.1)).Pairwise (· < ·)
  shown_le : ∀ l ∈ shown r.history, l.1 ≤ r.state.applied

theorem listingsAsked_extend {r : Run} {e : Event} :
    listingsAsked (r.extend e).history = listingsAsked r.history ++ listingsAsked [e] := by
  simp [listingsAsked, Run.extend]

theorem listingsAsked_of_not_ask {e : Event}
    (h : ∀ awaiting, e.next ≠ some (.ask .listing awaiting)) : listingsAsked [e] = [] := by
  rw [listingsAsked, List.filterMap_cons_none, List.filterMap_nil]
  split
  · next awaiting hnext => exact absurd hnext (h awaiting)
  · rfl

theorem ListingsInOrder.asked_extend {r : Run} {e : Event} (h : ListingsInOrder r)
    (he : actor.Possible r e) :
    (∃ purposes : List Purpose,
      listingsAsked (r.extend e).history = purposes.mapIdx fun i p => .listing (i + 1) p) ∧
    (e.after.isLive = true → e.after.issued = (listingsAsked (r.extend e).history).length) := by
  obtain ⟨purposes, hasked⟩ := h.asked
  rw [listingsAsked_extend]
  rcases countsListings_of_possible he with ⟨purpose, hlive, -, hissued, hnext⟩ | ⟨hask, -, hkeep⟩
  · have hnew : listingsAsked [e] = [.listing (r.state.issued + 1) purpose] := by
      simp [listingsAsked, hnext]
    have hcount := h.issued hlive
    rw [hnew]
    constructor
    · refine ⟨purposes ++ [purpose], ?_⟩
      have hlength : (listingsAsked r.history).length = purposes.length := by simp [hasked]
      rw [List.mapIdx_concat, ← hasked, hcount, hlength]
    · intro _
      simp [hissued, hcount]
  · rw [listingsAsked_of_not_ask hask, List.append_nil]
    refine ⟨⟨purposes, hasked⟩, ?_⟩
    intro hlive
    obtain ⟨hbefore, hsame⟩ := hkeep hlive
    rw [hsame, h.issued hbefore]

theorem ListingsInOrder.waiting_extend {r : Run} {e : Event} (h : ListingsInOrder r)
    (fits : AllFit r) (he : actor.Possible r e) :
    ∀ p ∈ (r.extend e).waiting, ∀ number purpose, p.awaiting = .listing number purpose →
      0 < number ∧ number ≤ e.after.issued := by
  intro p hp number purpose hawaiting
  have hcount := countsListings_of_possible he
  rcases Actor.mem_waiting_extend hp with hold | hnew
  · obtain ⟨hpos, hle⟩ := h.waiting p hold number purpose hawaiting
    refine ⟨hpos, Nat.le_trans hle ?_⟩
    rcases hcount with ⟨_, -, -, hissued, -⟩ | ⟨-, hissued, -⟩
    · omega
    · exact hissued
  · have hnext := Actor.next_of_mem_opened hnew
    rw [(fits.extend he).request_eq hp hawaiting] at hnext
    rcases hcount with ⟨_, -, -, hissued, hask⟩ | ⟨hask, -⟩
    · rw [hnext, hawaiting] at hask
      cases hask
      exact ⟨Nat.succ_pos _, Nat.le_of_eq hissued.symm⟩
    · exact absurd hnext (hask _)

theorem completions_extend {r : Run} {e : Event} :
    completions (r.extend e).history = completions r.history ++ (completionOf e).toList := by
  simp only [completions, Run.extend, List.filterMap_append]
  cases h : completionOf e <;> simp [h]

theorem shown_extend {r : Run} {e : Event} :
    shown (r.extend e).history = shown r.history ++ (shownOf e).toList := by
  simp only [shown, Run.extend, List.filterMap_append]
  cases h : shownOf e <;> simp [h]

theorem shownOf_eq_some {r : Run} {e : Event} (he : actor.Possible r e)
    {l : Nat × List Sample} (h : shownOf e = some l) :
    e.before.applied < l.1 ∧ e.after.applied = l.1 ∧ e.after.view.samples = l.2 := by
  simp only [shownOf] at h
  split at h
  · next op number samples hc =>
      split at h
      · next happ =>
          cases h
          obtain ⟨purpose, hsettles⟩ := settles_of_completionOf he hc
          exact ⟨hsettles.isApplied_iff.mp happ, hsettles.applied_eq happ,
            hsettles.samples_eq happ rfl⟩
      · cases h
  · cases h

theorem cause_of_shownOf {e : Event} {l : Nat × List Sample} (h : shownOf e = some l) :
    ∃ p purpose reply, e.cause = .reply p reply ∧ p.awaiting = .listing l.1 purpose ∧
      reply.samples = .ok l.2 := by
  simp only [shownOf] at h
  split at h
  · next op number samples hc =>
      obtain ⟨-, hl⟩ := Option.ite_none_right_eq_some.mp h
      cases hl
      obtain ⟨-, p, purpose, reply, hcause, -, -, hawaiting, hsamples⟩ := cause_of_completionOf hc
      exact ⟨p, purpose, reply, hcause, hawaiting, hsamples⟩
  · cases h

theorem samples_of_shownOf_eq_none {r : Run} {e : Event} (fits : AllFit r)
    (he : actor.Possible r e) (h : shownOf e = none) :
    e.after.view.samples = e.before.view.samples := by
  cases hc : completionOf e with
  | none => exact (keeps_of_completionOf_eq_none fits he hc).2
  | some c =>
      obtain ⟨purpose, hsettles⟩ := settles_of_completionOf he hc
      apply hsettles.samples_keep
      obtain ⟨op, number, answer⟩ := c
      cases answer with
      | error error => exact .inr ⟨error, rfl⟩
      | ok samples => simpa [shownOf, hc] using h

theorem applied_extend {r : Run} {e : Event} (fits : AllFit r) (he : actor.Possible r e)
    (h : r.state.applied = lastNumber (completions r.history)) :
    e.after.applied = lastNumber (completions (r.extend e).history) := by
  rw [completions_extend]
  rw [← he.before_eq] at h
  cases hc : completionOf e with
  | none =>
      rw [Option.toList_none, List.append_nil, ← h]
      exact (keeps_of_completionOf_eq_none fits he hc).1
  | some c =>
      obtain ⟨purpose, hsettles⟩ := settles_of_completionOf he hc
      rw [hsettles.after, applied_settleListing, h, Option.toList_some, lastNumber_concat]

theorem applied_le_after {r : Run} {e : Event} (fits : AllFit r)
    (he : actor.Possible r e) : e.before.applied ≤ e.after.applied := by
  cases hc : completionOf e with
  | none => exact Nat.le_of_eq (keeps_of_completionOf_eq_none fits he hc).1.symm
  | some c =>
      obtain ⟨purpose, hsettles⟩ := settles_of_completionOf he hc
      rw [hsettles.after, applied_settleListing]
      exact Nat.le_max_left _ _

theorem ListingsInOrder.extend {r : Run} {e : Event} (h : ListingsInOrder r)
    (fits : AllFit r) (he : actor.Possible r e) : ListingsInOrder (r.extend e) := by
  obtain ⟨hasked, hissued⟩ := h.asked_extend he
  have hwaiting := h.waiting_extend fits he
  have happlied := applied_extend fits he h.applied
  have hmono : r.state.applied ≤ e.after.applied := he.before_eq ▸ applied_le_after fits he
  cases hshown : shownOf e with
  | none =>
      have heq : shown (r.extend e).history = shown r.history := by
        rw [shown_extend, hshown, Option.toList_none, List.append_nil]
      refine ⟨hasked, hissued, hwaiting, happlied, ?_, ?_, ?_⟩
      · rw [heq, ← h.samples, ← he.before_eq]
        exact samples_of_shownOf_eq_none fits he hshown
      · rw [heq]
        exact h.increasing
      · rw [heq]
        intro l hl
        exact Nat.le_trans (h.shown_le l hl) hmono
  | some l =>
      obtain ⟨hlt, hnumber, hsamples⟩ := shownOf_eq_some he hshown
      rw [he.before_eq] at hlt
      have heq : shown (r.extend e).history = shown r.history ++ [l] := by
        rw [shown_extend, hshown, Option.toList_some]
      refine ⟨hasked, hissued, hwaiting, happlied, ?_, ?_, ?_⟩
      · rw [heq, List.getLast?_concat]
        exact hsamples
      · rw [heq, List.map_append, List.pairwise_append]
        refine ⟨h.increasing, by simp, ?_⟩
        intro m hm n hn
        obtain ⟨k, hk, rfl⟩ := List.mem_map.mp hm
        have hkle := h.shown_le k hk
        have hnl : n = l.1 := by simpa using hn
        omega
      · rw [heq]
        intro k hk
        rcases List.mem_append.mp hk with hk | hk
        · exact Nat.le_trans (h.shown_le k hk) hmono
        · rw [List.mem_singleton.mp hk]
          exact Nat.le_of_eq hnumber.symm

theorem listingsInOrder_run (moves : List Move) : ListingsInOrder (actor.run moves) := by
  refine Actor.run_induction ?_ ?_ moves
  · exact ⟨⟨[], rfl⟩, fun _ => rfl, by simp [Actor.initial], rfl, rfl, by simp [Actor.initial, shown],
      by simp [Actor.initial, shown]⟩
  · intro moves e ih he
    exact ih.extend (allFit_run moves) he

theorem applied_le_issued (moves : List Move) :
    (actor.run moves).state.applied ≤ (actor.run moves).state.issued := by
  refine Actor.run_induction (P := fun r : Run => r.state.applied ≤ r.state.issued) ?_ ?_ moves
  · exact Nat.le_refl 0
  · intro moves e ih he
    have hissued : (actor.run moves).state.issued ≤ e.after.issued := by
      rcases countsListings_of_possible he with ⟨_, -, -, hissued, -⟩ | ⟨-, hissued, -⟩
      · omega
      · exact hissued
    refine Nat.le_trans ?_ hissued
    change e.after.applied ≤ (actor.run moves).state.issued
    cases hc : completionOf e with
    | none =>
        rw [(keeps_of_completionOf_eq_none (allFit_run moves) he hc).1, he.before_eq]
        exact ih
    | some c =>
        obtain ⟨purpose, hsettles⟩ := settles_of_completionOf he hc
        obtain ⟨p, hp, -, hawaiting⟩ := hsettles.under_way
        have hnumber := (listingsInOrder_run moves).waiting p hp c.number purpose hawaiting
        rw [hsettles.after, applied_settleListing, he.before_eq]
        exact Nat.max_le.mpr ⟨ih, hnumber.2⟩

/-! ## The order of listings -/

/-- What the answer to a listing, on a store in use, does to the store and returns.  The
listings completed before are those of `past`. -/
structure SettlesInOrder (past : History) (e : Event) (c : Completion) : Prop where
  applied_iff : isApplied e = true ↔ ∀ d ∈ completions past, d.number < c.number
  applied_eq : isApplied e = true → e.after.applied = c.number
  shows : isApplied e = true → ∀ samples, c.answer = .ok samples →
    e.after.view.samples = samples
  keeps : (isApplied e = false ∨ ∃ error, c.answer = .error error) →
    e.after.view.samples = e.before.view.samples
  returns : c.op = .attach ∨ c.op = .fetchAll →
    (e.result? = some (.ok .done) ↔ ∃ samples, c.answer = .ok samples)
  refreshes : (∃ name code, c.op = .addSample name code) → e.result? = some (.ok .done)

theorem settlesInOrder_of_possible {r : Run} {e : Event} {c : Completion} (fits : AllFit r)
    (h : ListingsInOrder r) (he : actor.Possible r e) (hc : completionOf e = some c) :
    SettlesInOrder r.history e c := by
  obtain ⟨purpose, hsettles⟩ := settles_of_completionOf he hc
  have hfits := hsettles.fits fits
  refine ⟨?_, hsettles.applied_eq, fun happ _ => hsettles.samples_eq happ,
    hsettles.samples_keep, ?_, ?_⟩
  · obtain ⟨p, hp, -, hawaiting⟩ := hsettles.under_way
    rw [hsettles.isApplied_iff, he.before_eq, h.applied]
    exact lastNumber_lt_iff (h.waiting p hp c.number purpose hawaiting).1
  · intro hop
    have hpurpose : purpose ≠ .refresh := by
      rintro rfl
      obtain ⟨-, name, code, hadd⟩ := hfits
      rcases hop with hop | hop <;> cases hadd.symm.trans hop
    rw [hsettles.result_iff]
    simp [hpurpose]
  · rintro ⟨name, code, hop⟩
    have hpurpose : purpose = .refresh := by
      cases purpose with
      | refresh => rfl
      | fetch => rcases hfits.2 with hfetch | hfetch <;> cases hop.symm.trans hfetch
    rw [hsettles.result_iff]
    exact .inl hpurpose

/-- What makes a store ask for a listing, and what for: the attachment that finds it as it was
created, a call of `fetchAll` on the store in use, and the answer that a sample was created. -/
inductive CallsForListing (e : Event) : Purpose → Prop
  | attach {task : Nat} (cause : e.cause = .start task .attach)
      (created : e.before.view.lifecycle = .created) : CallsForListing e .fetch
  | fetchAll {task : Nat} (cause : e.cause = .start task .fetchAll)
      (live : e.before.isLive = true) : CallsForListing e .fetch
  | creation {task : Nat} {op : Operation} {draft : Draft} {awaiting : Awaiting} {body : Json}
      (cause : e.cause = .reply ⟨task, op, .create draft, awaiting⟩ (.ok body))
      (live : e.before.isLive = true) : CallsForListing e .refresh

theorem CallsForListing.isLive {e : Event} {purpose : Purpose} (h : CallsForListing e purpose) :
    e.before.isLive = true := by
  cases h with
  | attach cause created => simp [Store.isLive, created]
  | fetchAll cause live => exact live
  | creation cause live => exact live

theorem CallsForListing.next_eq {r : Run} {e : Event} {purpose : Purpose}
    (h : CallsForListing e purpose) (fits : AllFit r) (he : actor.Possible r e) :
    e.next = some (.ask .listing (.listing (e.before.issued + 1) purpose)) := by
  cases he with
  | start op =>
      cases h with
      | attach cause created =>
          cases cause
          have hcreated : r.state.view.lifecycle = .created := created
          simp [Event.ofTurn, actor, start, hcreated, issueListing, Store.isLive]
      | fetchAll cause live =>
          cases cause
          exact congrArg (some ·.next) (issueListing_of_isLive .fetch live)
      | creation cause live => cases cause
  | change c => cases h <;> contradiction
  | reply p reply hp =>
      cases h with
      | attach cause created => cases cause
      | fetchAll cause live => cases cause
      | creation cause live =>
          cases cause
          have hlive : r.state.isLive = true := live
          obtain rfl := awaiting_of_create (fits _ hp)
          obtain ⟨s', hturn⟩ := resume_creation_ok hlive _
          exact congrArg (some ·.next) hturn

/-- Overlapping listings of a store, in every interleaving of its operations: they are
numbered in the order of asking, and whatever calls for one gets the next number; the store
remembers the greatest number that was answered while it was in use; its samples are those of
the last listing that was applied and succeeded, and the numbers of these listings increase;
and each answer is applied, shown and reported as its number and its content say. -/
theorem listings_applied_in_order (moves : List Move) :
    let r := actor.run moves
    (∃ purposes : List Purpose,
      listingsAsked r.history = purposes.mapIdx fun i p => .listing (i + 1) p) ∧
    r.state.applied = lastNumber (completions r.history) ∧
    r.state.view.samples = ((shown r.history).getLast?.map (·.2)).getD [] ∧
    ((shown r.history).map (·.1)).Pairwise (· < ·) ∧
    ∀ past e later, r.history = past ++ e :: later →
      (∀ purpose, CallsForListing e purpose →
        e.next = some (.ask .listing (.listing ((listingsAsked past).length + 1) purpose))) ∧
      ∀ c, completionOf e = some c → SettlesInOrder past e c := by
  have h := listingsInOrder_run moves
  refine ⟨h.asked, h.applied, h.samples, h.increasing, ?_⟩
  intro past e later hsplit
  obtain ⟨earlier, rfl, he⟩ := Actor.exists_run_before hsplit
  have hearlier := listingsInOrder_run earlier
  constructor
  · intro purpose hcalls
    have hlive := he.before_eq ▸ hcalls.isLive
    rw [hcalls.next_eq (allFit_run earlier) he, he.before_eq, hearlier.issued hlive]
  · exact fun c => settlesInOrder_of_possible (allFit_run earlier) hearlier he

end CodeShelf.Store
