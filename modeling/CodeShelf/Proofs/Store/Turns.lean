import CodeShelf.Proofs.Run
import CodeShelf.Store

/-!
# The turns of a store

A store as a component that lives through runs, what its turns do to the numbering of
listings and to the life of the store, and which request an operation waits for at each
of its stages.
-/

namespace CodeShelf.Store

abbrev Move := CodeShelf.Move Operation Change

abbrev Event := CodeShelf.Event Store Operation Awaiting Result Change

abbrev History := List Store.Event

abbrev Pending := CodeShelf.Pending Operation Awaiting

abbrev Run := CodeShelf.Run Store Operation Awaiting Result Change

def actor : Actor Store Operation Awaiting Result Change where
  fresh := {}
  start := start
  resume := resume
  change := change

/-! ## Asking for a listing -/

theorem issueListing_of_isLive {s : Store} (purpose : Purpose) (h : s.isLive = true) :
    s.issueListing purpose =
      ⟨{ s with
          issued := s.issued + 1
          inFlight := s.inFlight + 1
          view := { s.view with loading := true } }, true,
        .ask .listing (.listing (s.issued + 1) purpose)⟩ := by
  simp only [issueListing]
  exact if_pos h

theorem issueListing_of_not_isLive {s : Store} (purpose : Purpose) (h : s.isLive = false) :
    s.issueListing purpose =
      .refuse { s with issued := s.issued + 1 } (purpose.result (.error .detached)) := by
  simp only [issueListing]
  exact if_neg (by simpa [isLive] using h)

theorem resume_creation_ok {s : Store} (live : s.isLive = true) (body : Json) :
    ∃ s', s.resume .creation (.ok body) =
      ⟨s', true, .ask .listing (.listing (s.issued + 1) .refresh)⟩ := by
  rw [resume, if_pos live, resumeLive, issueListing_of_isLive]
  · exact ⟨_, rfl⟩
  · exact live

theorem next_issueListing {s : Store} {purpose : Purpose} {request : Request}
    {awaiting : Awaiting} (h : (s.issueListing purpose).next = .ask request awaiting) :
    ∃ number, request = .listing ∧ awaiting = .listing number purpose := by
  cases hs : s.isLive with
  | true =>
      rw [issueListing_of_isLive purpose hs] at h
      cases h
      exact ⟨_, rfl, rfl⟩
  | false =>
      rw [issueListing_of_not_isLive purpose hs] at h
      cases h

@[simp] theorem applied_issueListing (purpose : Purpose) (s : Store) :
    (s.issueListing purpose).state.applied = s.applied := by
  simp only [issueListing]
  split <;> rfl

@[simp] theorem samples_issueListing (purpose : Purpose) (s : Store) :
    (s.issueListing purpose).state.view.samples = s.view.samples := by
  simp only [issueListing]
  split <;> rfl

/-! ## The numbering of listings -/

/-- A step either asks for the listing after the last one, or asks for none and leaves
the count of a store in use alone.  No step puts a detached store into use. -/
def CountsListings (s s' : Store) (next : Option (Next Awaiting Result)) : Prop :=
  (∃ purpose, s.isLive = true ∧ s'.isLive = true ∧ s'.issued = s.issued + 1 ∧
      next = some (.ask .listing (.listing (s.issued + 1) purpose))) ∨
    ((∀ awaiting, next ≠ some (.ask .listing awaiting)) ∧ s.issued ≤ s'.issued ∧
      (s'.isLive = true → s.isLive = true ∧ s'.issued = s.issued))

theorem countsListings_issueListing {s s' : Store} (purpose : Purpose)
    (live : s'.isLive = s.isLive) (issued : s'.issued = s.issued) :
    CountsListings s (s'.issueListing purpose).state (some (s'.issueListing purpose).next) := by
  cases hs : s'.isLive with
  | true =>
      left
      rw [issueListing_of_isLive purpose hs]
      exact ⟨purpose, live ▸ hs, hs, by rw [issued], by rw [issued]⟩
  | false =>
      right
      rw [issueListing_of_not_isLive purpose hs]
      refine ⟨by simp [Turn.refuse], by simp [Turn.refuse, issued], ?_⟩
      intro h
      have : s'.isLive = true := h
      simp [hs] at this

theorem countsListings_of_eq {s s' : Store} {next : Option (Next Awaiting Result)}
    (asks : ∀ awaiting, next ≠ some (.ask .listing awaiting))
    (live : s'.isLive = s.isLive) (issued : s'.issued = s.issued) :
    CountsListings s s' next :=
  .inr ⟨asks, Nat.le_of_eq issued.symm, fun h => ⟨live ▸ h, issued⟩⟩

theorem countsListings_start (op : Operation) (s : Store) :
    CountsListings s (s.start op).state (some (s.start op).next) := by
  cases op with
  | attach =>
      simp only [start]
      split
      · next h =>
          refine countsListings_issueListing .fetch ?_ rfl
          simp only [isLive, h]
          decide
      · exact countsListings_of_eq (by simp [Turn.refuse]) rfl rfl
  | fetchAll => exact countsListings_issueListing .fetch rfl rfl
  | fetchContent name =>
      simp only [start]
      split <;> exact countsListings_of_eq (by simp [Turn.refuse]) rfl rfl
  | addSample name code =>
      simp only [start]
      split
      · exact countsListings_of_eq (by simp [Turn.refuse]) rfl rfl
      · split
        · split <;> exact countsListings_of_eq (by simp [Turn.refuse]) rfl rfl
        · exact countsListings_of_eq (by simp [Turn.refuse]) rfl rfl

@[simp] theorem issued_settleListing (number : Nat)
    (answer : Except CallError (List Sample)) (s : Store) :
    (s.settleListing number answer).issued = s.issued := by
  simp only [settleListing, applyListing]
  split
  · rfl
  · split <;> rfl

@[simp] theorem isLive_settleListing (number : Nat)
    (answer : Except CallError (List Sample)) (s : Store) :
    (s.settleListing number answer).isLive = s.isLive := by
  simp only [settleListing, applyListing]
  split
  · rfl
  · split <;> rfl

theorem countsListings_resume (awaiting : Awaiting) (reply : Reply) (s : Store) :
    CountsListings s (s.resume awaiting reply).state (some (s.resume awaiting reply).next) := by
  simp only [resume]
  split
  · cases awaiting with
    | listing number purpose =>
        refine countsListings_of_eq ?_ ?_ ?_ <;> simp [resumeLive]
    | lookup name =>
        simp only [resumeLive]
        split <;> exact countsListings_of_eq (by simp) rfl rfl
    | content =>
        simp only [resumeLive]
        split <;> exact countsListings_of_eq (by simp) rfl rfl
    | creation =>
        simp only [resumeLive]
        split
        · exact countsListings_issueListing .refresh rfl rfl
        · exact countsListings_of_eq (by simp) rfl rfl
  · exact countsListings_of_eq (by simp [Turn.refuse]) rfl rfl

theorem countsListings_change (c : Change) (s : Store) :
    CountsListings s (s.change c).1 none := by
  simp only [change]
  split
  · cases c with
    | search term => exact countsListings_of_eq (by simp) rfl rfl
    | openForm => exact countsListings_of_eq (by simp) rfl rfl
    | closeForm => exact countsListings_of_eq (by simp) rfl rfl
    | detach => exact .inr ⟨by simp, Nat.le_refl _, by simp [isLive]⟩
  · exact countsListings_of_eq (by simp) rfl rfl

theorem countsListings_of_possible {r : Run} {e : Event} (h : actor.Possible r e) :
    CountsListings r.state e.after e.next := by
  cases h with
  | start op => exact countsListings_start op r.state
  | reply p reply hp => exact countsListings_resume p.awaiting reply r.state
  | change c => exact countsListings_change c r.state

/-! ## Stages of an operation -/

/-- Whether a request under way and what is awaited of it belong to a stage of the
operation. -/
def Fits (op : Operation) (request : Request) : Awaiting → Prop
  | .listing _ .fetch => request = .listing ∧ (op = .attach ∨ op = .fetchAll)
  | .listing _ .refresh => request = .listing ∧ ∃ name code, op = .addSample name code
  | .lookup name => request = .idOf name ∧ op = .fetchContent name
  | .content => ∃ name id, request = .content id ∧ op = .fetchContent name
  | .creation =>
      ∃ name code draft, Draft.check name code = .ok draft ∧ request = .create draft ∧
        op = .addSample name code

theorem awaiting_of_create {op : Operation} {draft : Draft} {awaiting : Awaiting}
    (fits : Fits op (.create draft) awaiting) : awaiting = .creation := by
  cases awaiting with
  | creation => rfl
  | listing number purpose => cases purpose <;> cases fits.1
  | lookup name => cases fits.1
  | content =>
      obtain ⟨name, id, hrequest, -⟩ := fits
      cases hrequest

theorem fits_start {s : Store} {op : Operation} {request : Request} {awaiting : Awaiting}
    (h : (s.start op).next = .ask request awaiting) : Fits op request awaiting := by
  cases op with
  | attach =>
      simp only [start] at h
      split at h
      · obtain ⟨number, rfl, rfl⟩ := next_issueListing h
        exact ⟨rfl, .inl rfl⟩
      · simp [Turn.refuse] at h
  | fetchAll =>
      obtain ⟨number, rfl, rfl⟩ := next_issueListing h
      exact ⟨rfl, .inr rfl⟩
  | fetchContent name =>
      simp only [start] at h
      split at h
      · cases h
        exact ⟨rfl, rfl⟩
      · simp [Turn.refuse] at h
  | addSample name code =>
      simp only [start] at h
      split at h
      · simp [Turn.refuse] at h
      · next draft hdraft =>
          split at h
          · split at h
            · simp [Turn.refuse] at h
            · cases h
              exact ⟨name, code, draft, hdraft, rfl, rfl⟩
          · simp [Turn.refuse] at h

theorem fits_resume {s : Store} {op : Operation} {asked request : Request}
    {awaiting next : Awaiting} {reply : Reply} (fits : Fits op asked awaiting)
    (h : (s.resume awaiting reply).next = .ask request next) : Fits op request next := by
  simp only [resume] at h
  split at h
  · cases awaiting with
    | listing number purpose => simp [resumeLive] at h
    | lookup name =>
        simp only [resumeLive] at h
        split at h
        · cases h
          exact ⟨name, _, rfl, fits.2⟩
        · simp at h
    | content =>
        simp only [resumeLive] at h
        split at h <;> simp at h
    | creation =>
        obtain ⟨name, code, draft, -, -, rfl⟩ := fits
        simp only [resumeLive] at h
        split at h
        · obtain ⟨number, rfl, rfl⟩ := next_issueListing h
          exact ⟨rfl, name, code, rfl⟩
        · simp at h
  · simp [Turn.refuse] at h

def AllFit (r : Run) : Prop :=
  ∀ p ∈ r.waiting, Fits p.op p.request p.awaiting

theorem AllFit.extend {r : Run} {e : Event} (h : AllFit r) (he : actor.Possible r e) :
    AllFit (r.extend e) := by
  refine he.waiting_extend (P := Fits) ?_ ?_ h
  · intro s op request awaiting hnext
    exact fits_start hnext
  · intro s op asked request awaiting next reply fits hnext
    exact fits_resume fits hnext

theorem allFit_run (moves : List Move) : AllFit (actor.run moves) := by
  refine Actor.run_induction ?_ ?_ moves
  · simp [AllFit, Actor.initial]
  · intro moves e ih he
    exact ih.extend he

theorem AllFit.request_eq {r : Run} (h : AllFit r) {p : Pending} (hp : p ∈ r.waiting)
    {number : Nat} {purpose : Purpose} (ha : p.awaiting = .listing number purpose) :
    p.request = .listing := by
  have hfits := h p hp
  rw [ha] at hfits
  cases purpose <;> exact hfits.1

end CodeShelf.Store
