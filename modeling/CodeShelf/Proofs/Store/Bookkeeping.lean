import CodeShelf.Proofs.Detach
import CodeShelf.Proofs.Store.Listing

/-!
# The books of a store

What a store says about itself agrees with what is under way.  A store in use counts its
listings under way, it is loading exactly while there are some, and it is adding exactly
while a creation of its own is unanswered, of which there is never more than one.  The
samples in view are always the ones that the search term leaves.
-/

namespace CodeShelf

namespace Request

def isListing : Request → Bool
  | listing => true
  | _ => false

def isCreate : Request → Bool
  | create _ => true
  | _ => false

end Request

/-! ## Counting requests -/

section Counting

variable {σ ι κ ρ χ : Type}

def Run.underWay (kind : Request → Bool) (r : Run σ ι κ ρ χ) : Nat :=
  r.waiting.countP fun p => kind p.request

def Next.asks (kind : Request → Bool) : Next κ ρ → Nat
  | ask request _ => (kind request).toNat
  | finish _ => 0

theorem Next.countP_pending (kind : Request → Bool) (task : Nat) (op : ι) (next : Next κ ρ) :
    (next.pending task op).countP (fun p => kind p.request) = next.asks kind := by
  cases next with
  | ask request awaiting => cases h : kind request <;> simp [pending, asks, h]
  | finish result => rfl

theorem countP_filter_task {waiting : List (Pending ι κ)}
    (nodup : (waiting.map (·.task)).Nodup) {p : Pending ι κ} (hp : p ∈ waiting)
    (kind : Request → Bool) :
    (waiting.filter (·.task != p.task)).countP (fun p => kind p.request) +
      (kind p.request).toNat = waiting.countP fun p => kind p.request := by
  induction waiting with
  | nil => cases hp
  | cons q rest ih =>
      rw [List.map_cons, List.nodup_cons] at nodup
      obtain ⟨hfresh, hrest⟩ := nodup
      rw [List.countP_cons]
      rcases List.mem_cons.mp hp with rfl | hmem
      · have hkeep : rest.filter (·.task != p.task) = rest := by
          refine List.filter_eq_self.mpr fun q hq => ?_
          have hne : q.task ≠ p.task := fun h => hfresh (h ▸ List.mem_map_of_mem hq)
          simpa using hne
        rw [List.filter_cons_of_neg (by simp), hkeep]
        cases kind p.request <;> rfl
      · have hne : q.task ≠ p.task := fun h => hfresh (h ▸ List.mem_map_of_mem hmem)
        have hcount := ih hrest hmem
        rw [List.filter_cons_of_pos (by simpa using hne), List.countP_cons]
        omega

namespace Actor

variable {a : Actor σ ι κ ρ χ}

theorem underWay_start (r : Run σ ι κ ρ χ) (kind : Request → Bool) (op : ι)
    (t : Turn σ κ ρ) :
    (r.extend (.ofTurn (.start r.tasks op) r.state t)).underWay kind =
      r.underWay kind + t.next.asks kind := by
  rw [← t.next.countP_pending kind r.tasks op]
  exact List.countP_append

theorem underWay_reply {moves : List (Move ι χ)} {p : Pending ι κ}
    (hp : p ∈ (a.run moves).waiting) (kind : Request → Bool) (reply : Reply)
    (t : Turn σ κ ρ) :
    ∃ rest, (a.run moves).underWay kind = rest + (kind p.request).toNat ∧
      ((a.run moves).extend (.ofTurn (.reply p reply) (a.run moves).state t)).underWay kind =
        rest + t.next.asks kind := by
  refine ⟨_, (countP_filter_task (nodup_tasks moves) hp kind).symm, ?_⟩
  rw [← t.next.countP_pending kind p.task p.op]
  exact List.countP_append

theorem underWay_change (r : Run σ ι κ ρ χ) (kind : Request → Bool) (c : χ) (s : σ × Bool) :
    (r.extend (.ofChange c r.state s)).underWay kind = r.underWay kind := by
  simp [Run.underWay, Run.extend, Run.unanswered, Event.ofChange, Event.opened]

end Actor

end Counting

namespace Store

/-! ## One turn -/

theorem inFlight_settleListing (number : Nat) (answer : Except CallError (List Sample))
    (s : Store) : (s.settleListing number answer).inFlight = s.inFlight - 1 := by
  simp only [settleListing, applyListing]
  split
  · rfl
  · cases answer <;> rfl

theorem loading_settleListing (number : Nat) (answer : Except CallError (List Sample))
    (s : Store) :
    (s.settleListing number answer).view.loading = decide (0 < s.inFlight - 1) := by
  simp only [settleListing, applyListing]
  split
  · rfl
  · cases answer <;> rfl

theorem adding_settleListing (number : Nat) (answer : Except CallError (List Sample))
    (s : Store) : (s.settleListing number answer).view.adding = s.view.adding := by
  simp only [settleListing, applyListing]
  split
  · rfl
  · cases answer <;> rfl

theorem filtered_settleListing (number : Nat) (answer : Except CallError (List Sample))
    {s : Store} (h : s.view.filtered = Sample.search s.view.searchTerm s.view.samples) :
    (s.settleListing number answer).view.filtered =
      Sample.search (s.settleListing number answer).view.searchTerm
        (s.settleListing number answer).view.samples := by
  simp only [settleListing, applyListing]
  split
  · exact h
  · cases answer with
    | ok samples => rfl
    | error e => exact h

/-- The books of a store of which the given numbers of listings and of creations are under
way. -/
structure Balanced (listings creates : Nat) (s : Store) : Prop where
  filtered : s.view.filtered = Sample.search s.view.searchTerm s.view.samples
  inFlight : s.isLive = true → s.inFlight = listings
  loading : s.isLive = true → (s.view.loading = true ↔ 0 < listings)
  adding : s.isLive = true → (s.view.adding = true ↔ creates = 1)
  single : creates ≤ 1
  idle : s.isLive = false → s.view.loading = false ∧ s.view.adding = false

namespace Balanced

variable {listings creates : Nat} {s : Store}

theorem withIssued (h : Balanced listings creates s) (n : Nat) :
    Balanced listings creates { s with issued := n } :=
  ⟨h.filtered, h.inFlight, h.loading, h.adding, h.single, h.idle⟩

theorem withError (h : Balanced listings creates s) (error : Option Notice) :
    Balanced listings creates (s.withError error) :=
  ⟨h.filtered, h.inFlight, h.loading, h.adding, h.single, h.idle⟩

theorem withForm (h : Balanced listings creates s) (formOpen : Bool) :
    Balanced listings creates { s with view := { s.view with formOpen := formOpen } } :=
  ⟨h.filtered, h.inFlight, h.loading, h.adding, h.single, h.idle⟩

theorem claim (h : Balanced listings creates s) (live : s.isLive = true)
    (free : s.view.adding = false) :
    Balanced listings (creates + 1) { s with view := { s.view with adding := true } } := by
  have hnone : creates = 0 := by
    have hiff := h.adding live
    have hle := h.single
    simp only [free, Bool.false_eq_true, false_iff] at hiff
    omega
  refine ⟨h.filtered, h.inFlight, h.loading, ?_, by omega, ?_⟩
  · intro _
    simp [hnone]
  · intro hdead
    cases hdead.symm.trans live

theorem release (h : Balanced listings (creates + 1) s) (live : s.isLive = true) :
    Balanced listings creates { s with view := { s.view with adding := false } } := by
  have hle := h.single
  refine ⟨h.filtered, h.inFlight, h.loading, ?_, by omega, ?_⟩
  · intro _
    simp only [Bool.false_eq_true, false_iff]
    omega
  · intro hdead
    cases hdead.symm.trans live

theorem issueListing (h : Balanced listings creates s) (purpose : Purpose) :
    Balanced (listings + (s.issueListing purpose).next.asks Request.isListing)
      (creates + (s.issueListing purpose).next.asks Request.isCreate)
      (s.issueListing purpose).state := by
  cases hs : s.isLive with
  | false =>
      rw [issueListing_of_not_isLive purpose hs]
      exact h.withIssued _
  | true =>
      rw [issueListing_of_isLive purpose hs]
      refine ⟨h.filtered, ?_, ?_, h.adding, h.single, ?_⟩
      · intro _
        exact congrArg (· + 1) (h.inFlight hs)
      · intro _
        simp [Next.asks, Request.isListing]
      · intro hdead
        cases hdead.symm.trans hs

theorem settleListing (h : Balanced (listings + 1) creates s) (live : s.isLive = true)
    (number : Nat) (answer : Except CallError (List Sample)) :
    Balanced listings creates (s.settleListing number answer) := by
  have hcount : s.inFlight - 1 = listings := by
    rw [h.inFlight live]
    rfl
  refine ⟨filtered_settleListing number answer h.filtered, ?_, ?_, ?_, h.single, ?_⟩
  · intro _
    rw [inFlight_settleListing, hcount]
  · intro _
    rw [loading_settleListing, hcount, decide_eq_true_eq]
  · intro _
    rw [adding_settleListing]
    exact h.adding live
  · intro hdead
    rw [isLive_settleListing, live] at hdead
    cases hdead

theorem start (h : Balanced listings creates s) (op : Operation) :
    Balanced (listings + (s.start op).next.asks Request.isListing)
      (creates + (s.start op).next.asks Request.isCreate) (s.start op).state := by
  cases op with
  | attach =>
      simp only [Store.start]
      split
      · next hcreated =>
          have hlive : s.isLive = true := by simp [isLive, hcreated]
          refine issueListing (s := { s with view := { s.view with lifecycle := .attached } })
            ⟨h.filtered, fun _ => h.inFlight hlive, fun _ => h.loading hlive,
              fun _ => h.adding hlive, h.single, ?_⟩ .fetch
          intro hdead
          cases hdead
      · exact h
  | fetchAll => exact h.issueListing .fetch
  | fetchContent name =>
      simp only [Store.start]
      split <;> exact h
  | addSample name code =>
      simp only [Store.start]
      split
      · exact h
      · split
        · next hlive =>
            split
            · exact h
            · next hfree => exact h.claim hlive (by simpa using hfree)
        · exact h

theorem resume {op : Operation} {request : Request} {awaiting : Awaiting}
    (fits : Fits op request awaiting)
    (h : Balanced (listings + request.isListing.toNat) (creates + request.isCreate.toNat) s)
    (reply : Reply) :
    Balanced (listings + (s.resume awaiting reply).next.asks Request.isListing)
      (creates + (s.resume awaiting reply).next.asks Request.isCreate)
      (s.resume awaiting reply).state := by
  cases hs : s.isLive with
  | false =>
      rw [resume_of_not_isLive awaiting reply hs]
      have hle := h.single
      refine ⟨h.filtered, ?_, ?_, ?_, ?_, h.idle⟩
      · intro hlive
        cases hlive.symm.trans hs
      · intro hlive
        cases hlive.symm.trans hs
      · intro hlive
        cases hlive.symm.trans hs
      · simp only [Turn.refuse, Next.asks]
        omega
  | true =>
      rw [Store.resume, if_pos hs]
      cases awaiting with
      | listing number purpose =>
          obtain rfl : request = .listing := by cases purpose <;> exact fits.1
          exact h.settleListing hs number reply.samples
      | lookup name =>
          obtain ⟨rfl, -⟩ := fits
          simp only [resumeLive]
          split
          · exact h
          · exact h.withError _
      | content =>
          obtain ⟨name, id, rfl, -⟩ := fits
          simp only [resumeLive]
          split <;> exact h.withError _
      | creation =>
          obtain ⟨name, code, draft, -, rfl, -⟩ := fits
          have hreleased := h.release hs
          simp only [resumeLive]
          cases reply with
          | ok body => exact ((hreleased.withForm false).withError none).issueListing .refresh
          | error e => exact hreleased.withError _

theorem change (h : Balanced listings creates s) (c : Change) :
    Balanced listings creates (s.change c).1 := by
  cases hs : s.isLive with
  | false =>
      rw [change_of_not_isLive c hs]
      exact h
  | true =>
      simp only [Store.change, hs, if_true]
      cases c with
      | search term => exact ⟨rfl, h.inFlight, h.loading, h.adding, h.single, h.idle⟩
      | openForm => exact h.withForm true
      | closeForm => exact h.withForm false
      | detach =>
          refine ⟨h.filtered, ?_, ?_, ?_, h.single, fun _ => ⟨rfl, rfl⟩⟩ <;>
          · intro hlive
            cases hlive

end Balanced

/-! ## Runs -/

theorem isLive_of_completionOf {e : Event} {c : Completion} (h : completionOf e = some c) :
    e.before.isLive = true := by
  simp only [completionOf] at h
  split at h
  · exact (Option.ite_none_right_eq_some.mp h).1
  · cases h

def InBalance (r : Run) : Prop :=
  Balanced (r.underWay Request.isListing) (r.underWay Request.isCreate) r.state

theorem inBalance_run (moves : List Move) : InBalance (actor.run moves) := by
  refine Actor.run_induction ?_ ?_ moves
  · refine ⟨rfl, ?_, ?_, ?_, ?_, ?_⟩ <;> simp [Actor.initial, actor, Run.underWay, isLive]
  · intro moves e ih he
    have hfits := allFit_run moves
    cases he with
    | start op =>
        rw [InBalance, Actor.underWay_start, Actor.underWay_start]
        exact ih.start op
    | change c =>
        rw [InBalance, Actor.underWay_change, Actor.underWay_change]
        exact ih.change c
    | reply p reply hp =>
        obtain ⟨listings, hlistings, hlistings'⟩ := Actor.underWay_reply hp Request.isListing
          reply (actor.resume p.awaiting reply (actor.run moves).state)
        obtain ⟨creates, hcreates, hcreates'⟩ := Actor.underWay_reply hp Request.isCreate reply
          (actor.resume p.awaiting reply (actor.run moves).state)
        rw [InBalance, hlistings, hcreates] at ih
        rw [InBalance, hlistings', hcreates']
        exact ih.resume (hfits p hp) reply

theorem inFlight_of_completionOf {moves : List Move} {e : Event}
    (he : e ∈ (actor.run moves).history) {c : Completion} (hc : completionOf e = some c) :
    0 < e.before.inFlight ∧ e.after.inFlight + 1 = e.before.inFlight := by
  obtain ⟨earlier, hpossible⟩ := Actor.exists_possible_of_mem_history he
  obtain ⟨purpose, hsettles⟩ := settles_of_completionOf hpossible hc
  obtain ⟨p, hp, -, hawaiting⟩ := hsettles.under_way
  have hlisting := (allFit_run earlier).request_eq hp hawaiting
  have hpositive : 0 < e.before.inFlight := by
    have hlive := isLive_of_completionOf hc
    rw [hpossible.before_eq] at hlive ⊢
    rw [(inBalance_run earlier).inFlight hlive]
    exact List.countP_pos_iff.mpr ⟨p, hp, by rw [hlisting]; rfl⟩
  refine ⟨hpositive, ?_⟩
  rw [hsettles.after, inFlight_settleListing]
  omega

/-- The books of a store, in every interleaving of its operations: the samples in view are
those that the search term leaves; a store in use counts exactly its listings under way,
is loading exactly while there are some, and is adding exactly while one creation is
unanswered; there are never two; a detached store is neither loading nor adding; and the
count of a store that takes a listing in was positive. -/
theorem books_in_balance (moves : List Move) :
    let r := actor.run moves
    r.state.view.filtered = Sample.search r.state.view.searchTerm r.state.view.samples ∧
    (r.state.isLive = true →
      r.state.inFlight = r.underWay Request.isListing ∧
      (r.state.view.loading = true ↔ 0 < r.underWay Request.isListing) ∧
      (r.state.view.adding = true ↔ r.underWay Request.isCreate = 1)) ∧
    r.underWay Request.isCreate ≤ 1 ∧
    (r.state.isLive = false → r.state.view.loading = false ∧ r.state.view.adding = false) ∧
    ∀ e ∈ r.history, ∀ c, completionOf e = some c →
      0 < e.before.inFlight ∧ e.after.inFlight + 1 = e.before.inFlight := by
  have h := inBalance_run moves
  refine ⟨h.filtered, ?_, h.single, h.idle, ?_⟩
  · intro hlive
    exact ⟨h.inFlight hlive, h.loading hlive, h.adding hlive⟩
  · intro e he c hc
    exact inFlight_of_completionOf he hc

end Store

end CodeShelf
