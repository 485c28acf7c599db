import CodeShelf.Proofs.Memory
import CodeShelf.Proofs.Session.Submission
import CodeShelf.Proofs.Store.Turns
import Mathlib.Logic.Function.Basic

/-!
# Traffic with the service in memory

Stores and sessions that share the service in memory, together with calls that belong to
none of them.  In any order, actions are performed, held calls go on, answers arrive, and
the service is controlled from outside.  Anything may happen between the moment at which
the service answers and the moment at which the answer arrives.  A held call may go on at
any time, so these are all the orders that gates and pauses can bring about, and more.
-/

namespace CodeShelf

inductive Caller where
  | store (index task : Nat)
  | session (index task : Nat)
  | bare (number : Nat)
  deriving DecidableEq, Repr

/-- The service with everything that uses it.  Of every call under way there is the
progress, and of everything that was removed from the service the id. -/
structure Traffic where
  memory : Memory
  stores : List Store.Run
  sessions : List Session.Run
  bareCalls : Nat := 0
  calls : Caller → Option (Progress HeldCall) := fun _ => none
  removed : List SampleId := []

namespace Control

def effect (m : Memory) : Control → Memory
  | .insert name code => (m.insert name code).1
  | .remove id => m.remove id
  | .shape s => { m with shape := s }
  | .setOutput code output => { m with outputs := (code, output) :: m.outputs }
  | .fail e => { m with failing := Memory.including e m.failing }
  | .recover e => { m with failing := Memory.excluding e m.failing }
  | .pause e => { m with paused := Memory.including e m.paused }
  | .resume e => { m with paused := Memory.excluding e m.paused }
  | .gate e => { m with gated := Memory.including e m.gated }
  | .release e index => (m.release e index).1
  | .samples => m
  | .callCount _ => m

def removed : Control → List SampleId
  | .remove id => [id]
  | _ => []

theorem changes_effect (m : Memory) (c : Control) : m.Changes (c.effect m) c.removed := by
  cases c with
  | insert name code => exact Memory.changes_insert name code m
  | remove id => exact .removal id rfl rfl
  | release e index =>
      simp only [effect, Memory.release]
      split <;> exact .nothing rfl rfl
  | _ => exact .nothing rfl rfl

end Control

namespace Traffic

inductive Move where
  | act (a : Action)
  | proceed (caller : Caller)
  | deliver (caller : Caller)
  | control (c : Control)

def record (caller : Caller) (taken : Memory × Progress HeldCall) (t : Traffic) : Traffic :=
  { t with memory := taken.1, calls := Function.update t.calls caller (some taken.2) }

def send (caller : Caller) (call : Call) (t : Traffic) : Traffic :=
  t.record caller (t.memory.receive call)

def sendAll {ι κ : Type} (caller : Nat → Caller) (opened : List (Pending ι κ)) (t : Traffic) :
    Traffic :=
  opened.foldl (fun t p => t.send (caller p.task) p.request.call) t

def moveStore (index : Nat) (m : Store.Move) (t : Traffic) : Traffic :=
  match t.stores[index]? with
  | none => t
  | some r =>
      match Store.actor.event? m r with
      | none => t
      | some e =>
          { t with stores := t.stores.set index (r.extend e) }.sendAll (.store index) e.opened

def moveSession (index : Nat) (m : Session.Move) (t : Traffic) : Traffic :=
  match t.sessions[index]? with
  | none => t
  | some r =>
      match Session.actor.event? m r with
      | none => t
      | some e =>
          { t with sessions := t.sessions.set index (r.extend e) }.sendAll (.session index) e.opened

def act (t : Traffic) : Action → Traffic
  | .store index op => t.moveStore index (.start op)
  | .session index op => t.moveSession index (.start op)
  | .bare call _ => { t.send (.bare t.bareCalls) call with bareCalls := t.bareCalls + 1 }
  | .changeStore index c => t.moveStore index (.change c)
  | .changeSession index c => t.moveSession index (.change c)

def hand (caller : Caller) (reply : Reply) (t : Traffic) : Traffic :=
  match caller with
  | .store index task => t.moveStore index (.reply task reply)
  | .session index task => t.moveSession index (.reply task reply)
  | .bare _ => t

def step (t : Traffic) : Move → Traffic
  | .act a => t.act a
  | .proceed caller =>
      match t.calls caller with
      | some (.held hold) => t.record caller (t.memory.passGate hold.question)
      | _ => t
  | .deliver caller =>
      match t.calls caller with
      | some (.answered reply) =>
          { t with calls := Function.update t.calls caller none }.hand caller reply
      | _ => t
  | .control c => { t with memory := c.effect t.memory, removed := t.removed ++ c.removed }

def fresh (samples : List (String × String)) (stores sessions : Nat) : Traffic where
  memory := .withSamples samples
  stores := List.replicate stores Store.actor.initial
  sessions := List.replicate sessions Session.actor.initial

def after (moves : List Move) (t : Traffic) : Traffic :=
  moves.foldl step t

/-! ## What a move does to the data -/

/-- What a move can be for the service: nothing, or a call comes in, or a held call goes on,
or the service is controlled from outside. -/
inductive Deals (m : Move) (t t' : Traffic) : Prop
  | nothing (memory : t'.memory = t.memory) (removed : t'.removed = t.removed)
  | receives (call : Call) (memory : t'.memory = (t.memory.receive call).1)
      (removed : t'.removed = t.removed)
  | proceeds (q : Question) (memory : t'.memory = (t.memory.passGate q).1)
      (removed : t'.removed = t.removed)
  | control (c : Control) (move : m = .control c) (memory : t'.memory = c.effect t.memory)
      (removed : t'.removed = t.removed ++ c.removed)

theorem deals_send {m : Move} (caller : Caller) (call : Call) {t t' : Traffic}
    (memory : t'.memory = t.memory) (removed : t'.removed = t.removed) :
    Deals m t (t'.send caller call) :=
  .receives call (by rw [← memory]; rfl) removed

theorem deals_sendAll {ι κ : Type} {m : Move} (caller : Nat → Caller)
    {opened : List (Pending ι κ)} (hopened : opened = [] ∨ ∃ p, opened = [p]) {t t' : Traffic}
    (memory : t'.memory = t.memory) (removed : t'.removed = t.removed) :
    Deals m t (t'.sendAll caller opened) := by
  rcases hopened with rfl | ⟨p, rfl⟩
  · exact .nothing memory removed
  · exact deals_send (caller p.task) p.request.call memory removed

theorem deals_moveStore {m : Move} (index : Nat) (own : Store.Move) {t t' : Traffic}
    (memory : t'.memory = t.memory) (removed : t'.removed = t.removed) :
    Deals m t (t'.moveStore index own) := by
  simp only [moveStore]
  split
  · exact .nothing memory removed
  · split
    · exact .nothing memory removed
    · next e _ => exact deals_sendAll _ (Actor.opened_cases e) memory removed

theorem deals_moveSession {m : Move} (index : Nat) (own : Session.Move) {t t' : Traffic}
    (memory : t'.memory = t.memory) (removed : t'.removed = t.removed) :
    Deals m t (t'.moveSession index own) := by
  simp only [moveSession]
  split
  · exact .nothing memory removed
  · split
    · exact .nothing memory removed
    · next e _ => exact deals_sendAll _ (Actor.opened_cases e) memory removed

theorem deals_step (t : Traffic) (m : Move) : Deals m t (t.step m) := by
  cases m with
  | act a =>
      cases a <;> simp only [step, act]
      case bare call reading => exact .receives call rfl rfl
      case store index op => exact deals_moveStore index _ rfl rfl
      case session index op => exact deals_moveSession index _ rfl rfl
      case changeStore index c => exact deals_moveStore index _ rfl rfl
      case changeSession index c => exact deals_moveSession index _ rfl rfl
  | proceed caller =>
      simp only [step]
      split
      · next hold _ => exact .proceeds hold.question rfl rfl
      · exact .nothing rfl rfl
  | deliver caller =>
      simp only [step]
      split
      · next reply _ =>
          cases caller with
          | store index task => exact deals_moveStore index _ rfl rfl
          | session index task => exact deals_moveSession index _ rfl rfl
          | bare number => exact .nothing rfl rfl
      · exact .nothing rfl rfl
  | control c => exact .control c rfl rfl rfl

def Follows (t t' : Traffic) : Prop :=
  ∃ gone, t.memory.Changes t'.memory gone ∧ t'.removed = t.removed ++ gone

theorem follows_step (t : Traffic) (m : Move) : Follows t (t.step m) := by
  cases deals_step t m with
  | nothing memory removed =>
      exact ⟨[], .nothing (by rw [memory]) (by rw [memory]), by simp [removed]⟩
  | receives call memory removed =>
      exact ⟨[], memory ▸ Memory.changes_receive call t.memory, by simp [removed]⟩
  | proceeds q memory removed =>
      exact ⟨[], memory ▸ Memory.changes_passGate q t.memory, by simp [removed]⟩
  | control c move memory removed =>
      exact ⟨c.removed, memory ▸ c.changes_effect t.memory, removed⟩

namespace Follows

variable {t t' : Traffic}

theorem idsInOrder (h : Follows t t') (ids : t.memory.IdsInOrder) : t'.memory.IdsInOrder := by
  obtain ⟨gone, hchanges, -⟩ := h
  exact hchanges.idsInOrder ids

theorem known (h : Follows t t') {s : Sample} (hs : t.memory.Known s) : t'.memory.Known s := by
  obtain ⟨gone, hchanges, -⟩ := h
  exact hchanges.known hs

theorem mem_of_known (h : Follows t t') {s : Sample} (known : t.memory.Known s)
    (hs : s ∈ t'.memory.samples) : s ∈ t.memory.samples := by
  obtain ⟨gone, hchanges, -⟩ := h
  exact hchanges.mem_of_known known hs

theorem removed_or_mem (h : Follows t t') {s : Sample}
    (hs : s.id ∈ t.removed ∨ s ∈ t.memory.samples) :
    s.id ∈ t'.removed ∨ s ∈ t'.memory.samples := by
  obtain ⟨gone, hchanges, hremoved⟩ := h
  rw [hremoved, List.mem_append]
  rcases hs with hgone | hmem
  · exact .inl (.inl hgone)
  · rcases hchanges.mem_or_gone hmem with hgone | hmem
    · exact .inl (.inr hgone)
    · exact .inr hmem

end Follows

/-! ## What a move does to a store -/

/-- What one move can be for a store: nothing, or the service goes on with the call of
one of its tasks, or an event, after which the service has the request of the event.
The progress of no other call changes, though an answer may go lost. -/
inductive Seen (index : Nat) (r : Store.Run) (t t' : Traffic) : Prop
  | elsewhere (store : t'.stores[index]? = some r)
      (calls : ∀ task progress, t'.calls (.store index task) = some progress →
        t.calls (.store index task) = some progress)
  | proceeds (task : Nat) (hold : HeldCall) (store : t'.stores[index]? = some r)
      (held : t.calls (.store index task) = some (.held hold))
      (memory : t'.memory = (t.memory.passGate hold.question).1)
      (taken : t'.calls (.store index task) = some (t.memory.passGate hold.question).2)
      (others : ∀ other, other ≠ task →
        t'.calls (.store index other) = t.calls (.store index other))
  | event (m : Store.Move) (e : Store.Event) (he : Store.actor.event? m r = some e)
      (store : t'.stores[index]? = some (r.extend e))
      (answered : ∀ p reply, e.cause = .reply p reply →
        t.calls (.store index p.task) = some (.answered reply))
      (sent : ∀ p ∈ e.opened, t'.memory = (t.memory.receive p.request.call).1 ∧
        t'.calls (.store index p.task) = some (t.memory.receive p.request.call).2)
      (others : ∀ other progress, e.task? ≠ some other →
        t'.calls (.store index other) = some progress →
        t.calls (.store index other) = some progress)

@[simp] theorem stores_sendAll {ι κ : Type} (caller : Nat → Caller)
    (opened : List (Pending ι κ)) (t : Traffic) :
    (t.sendAll caller opened).stores = t.stores := by
  induction opened generalizing t with
  | nil => rfl
  | cons p rest ih => exact ih (t.send (caller p.task) p.request.call)

theorem calls_record_of_ne {caller other : Caller} (h : other ≠ caller)
    (taken : Memory × Progress HeldCall) (t : Traffic) :
    (t.record caller taken).calls other = t.calls other :=
  Function.update_of_ne h _ _

theorem calls_sendAll_of_ne {ι κ : Type} {caller : Nat → Caller} {other : Caller}
    {opened : List (Pending ι κ)} (h : ∀ p ∈ opened, other ≠ caller p.task) (t : Traffic) :
    (t.sendAll caller opened).calls other = t.calls other := by
  induction opened generalizing t with
  | nil => rfl
  | cons p rest ih =>
      calc (t.sendAll caller (p :: rest)).calls other
          = (t.send (caller p.task) p.request.call).calls other :=
            ih (fun q hq => h q (List.mem_cons_of_mem p hq)) _
        _ = t.calls other := calls_record_of_ne (h p List.mem_cons_self) _ t

theorem seen_moveStore {index j : Nat} {m : Store.Move} {r : Store.Run} {t t₀ : Traffic}
    (store : t₀.stores[index]? = some r) (memory : t₀.memory = t.memory)
    (calls : ∀ task progress, t₀.calls (.store index task) = some progress →
      t.calls (.store index task) = some progress)
    (answered : j = index → ∀ e p reply, Store.actor.event? m r = some e →
      e.cause = .reply p reply → t.calls (.store index p.task) = some (.answered reply)) :
    Seen index r t (t₀.moveStore j m) := by
  simp only [moveStore]
  split
  · exact .elsewhere store calls
  · next r' hr' =>
      split
      · exact .elsewhere store calls
      · next e he =>
          by_cases hj : j = index
          · subst hj
            cases Option.some.inj (store.symm.trans hr')
            have hlt := (List.getElem?_eq_some_iff.mp store).1
            refine .event m e he ?_ (fun p reply => answered rfl e p reply he) ?_ ?_
            · simp [hlt]
            · intro p hp
              rcases Actor.opened_cases e with hnone | ⟨q, hq⟩
              · simp [hnone] at hp
              · rw [hq] at hp ⊢
                rw [List.mem_singleton.mp hp, ← memory]
                exact ⟨rfl, Function.update_self _ _ _⟩
            · intro other progress hother hprogress
              rw [calls_sendAll_of_ne] at hprogress
              · exact calls other progress hprogress
              · intro p hp heq
                cases heq
                exact hother (Actor.task?_of_mem_opened hp)
          · refine .elsewhere ?_ ?_
            · rw [stores_sendAll, List.getElem?_set_ne hj]
              exact store
            · intro task progress hprogress
              rw [calls_sendAll_of_ne fun p _ => by simp [Ne.symm hj]] at hprogress
              exact calls task progress hprogress

theorem seen_moveSession {index j : Nat} {m : Session.Move} {r : Store.Run} {t t₀ : Traffic}
    (store : t₀.stores[index]? = some r)
    (calls : ∀ task progress, t₀.calls (.store index task) = some progress →
      t.calls (.store index task) = some progress) :
    Seen index r t (t₀.moveSession j m) := by
  simp only [moveSession]
  split
  · exact .elsewhere store calls
  · split
    · exact .elsewhere store calls
    · refine .elsewhere (by simpa using store) ?_
      intro task progress hprogress
      rw [calls_sendAll_of_ne fun p _ => by simp] at hprogress
      exact calls task progress hprogress

theorem seen_step {index : Nat} {r : Store.Run} {t : Traffic}
    (store : t.stores[index]? = some r) (m : Move) : Seen index r t (t.step m) := by
  have keep : ∀ task progress, t.calls (.store index task) = some progress →
      t.calls (.store index task) = some progress := fun _ _ h => h
  cases m with
  | act a =>
      simp only [step]
      cases a with
      | store j op =>
          simp only [act]
          refine seen_moveStore store rfl keep ?_
          rintro - e p reply he hcause
          cases he
          cases hcause
      | session j op => exact seen_moveSession (m := .start op) store keep
      | bare call reading =>
          refine .elsewhere store ?_
          intro task progress hprogress
          have hcalls : (t.send (.bare t.bareCalls) call).calls (.store index task) =
              t.calls (.store index task) := calls_record_of_ne (by simp) _ t
          rwa [← hcalls]
      | changeStore j c =>
          simp only [act]
          refine seen_moveStore store rfl keep ?_
          rintro - e p reply he hcause
          cases he
          cases hcause
      | changeSession j c => exact seen_moveSession (m := .change c) store keep
  | proceed caller =>
      simp only [step]
      split
      · next hold hheld =>
          by_cases hcaller : ∃ task, caller = .store index task
          · obtain ⟨task, rfl⟩ := hcaller
            refine .proceeds task hold store hheld rfl (Function.update_self _ _ _) ?_
            intro other hother
            exact calls_record_of_ne (by simpa using hother) _ t
          · refine .elsewhere store ?_
            intro task progress hprogress
            rwa [calls_record_of_ne fun h => hcaller ⟨task, h.symm⟩] at hprogress
      · exact .elsewhere store keep
  | deliver caller =>
      simp only [step]
      split
      · next reply hanswered =>
          -- The answer is taken off the calls before it is handed over.
          have taken : ∀ task progress,
              Function.update t.calls caller none (.store index task) = some progress →
              t.calls (.store index task) = some progress := by
            intro task progress hprogress
            by_cases hcaller : Caller.store index task = caller
            · simp [hcaller] at hprogress
            · rwa [Function.update_of_ne hcaller] at hprogress
          cases caller with
          | store j task =>
              refine seen_moveStore store rfl taken ?_
              rintro rfl e p reply' he hcause
              obtain ⟨q, hq, rfl⟩ := Option.map_eq_some_iff.mp he
              cases hcause
              have htask : p.task = task := by simpa using List.find?_some hq
              rw [htask, hanswered]
          | session j task => exact seen_moveSession store taken
          | bare number => exact .elsewhere store taken
      · exact .elsewhere store keep
  | control c => exact .elsewhere store keep

theorem length_stores_moveStore (index : Nat) (m : Store.Move) (t : Traffic) :
    (t.moveStore index m).stores.length = t.stores.length := by
  simp only [moveStore]
  split
  · rfl
  · split <;> simp

theorem stores_moveSession (index : Nat) (m : Session.Move) (t : Traffic) :
    (t.moveSession index m).stores = t.stores := by
  simp only [moveSession]
  split
  · rfl
  · split <;> simp

theorem length_stores_step (t : Traffic) (m : Move) :
    (t.step m).stores.length = t.stores.length := by
  cases m with
  | act a =>
      cases a with
      | store index op => exact length_stores_moveStore index (.start op) t
      | session index op => exact congrArg _ (stores_moveSession index (.start op) t)
      | bare call reading => rfl
      | changeStore index c => exact length_stores_moveStore index (.change c) t
      | changeSession index c => exact congrArg _ (stores_moveSession index (.change c) t)
  | proceed caller =>
      simp only [step]
      split <;> rfl
  | deliver caller =>
      simp only [step]
      split
      · cases caller with
        | store index task => exact length_stores_moveStore index _ _
        | session index task => exact congrArg _ (stores_moveSession index _ _)
        | bare number => rfl
      · rfl
  | control c => rfl

theorem exists_store_of_step {index : Nat} {r' : Store.Run} {t : Traffic} {m : Move}
    (h : (t.step m).stores[index]? = some r') : ∃ r, t.stores[index]? = some r := by
  have hlt := (List.getElem?_eq_some_iff.mp h).1
  rw [length_stores_step] at hlt
  exact ⟨_, List.getElem?_eq_getElem hlt⟩

/-! ## The calls of a store -/

def Awaits (index : Nat) (p : Store.Pending) (t : Traffic) : Prop :=
  ∃ r, t.stores[index]? = some r ∧ p ∈ r.waiting

def EachCall (index : Nat) (P : Store.Pending → Progress HeldCall → Prop)
    (t : Traffic) : Prop :=
  ∀ r, t.stores[index]? = some r → ∀ p ∈ r.waiting, ∀ progress,
    t.calls (.store index p.task) = some progress → P p progress

theorem EachCall.step {index : Nat} {P P' : Store.Pending → Progress HeldCall → Prop}
    {t : Traffic} (m : Move) (h : EachCall index P t)
    (runs : ∀ r, t.stores[index]? = some r → ∃ moves, Store.actor.run moves = r)
    (stable : ∀ p progress, P p progress → P' p progress)
    (proceeded : ∀ p hold, (t.step m).Awaits index p → P p (.held hold) →
      (t.step m).memory = (t.memory.passGate hold.question).1 →
      P' p (t.memory.passGate hold.question).2)
    (sent : ∀ p, (t.step m).Awaits index p →
      (t.step m).memory = (t.memory.receive p.request.call).1 →
      P' p (t.memory.receive p.request.call).2) :
    EachCall index P' (t.step m) := by
  intro r' hr' p hp progress hprogress
  obtain ⟨r, hr⟩ := exists_store_of_step hr'
  cases seen_step hr m with
  | elsewhere store calls =>
      obtain rfl := Option.some.inj (store.symm.trans hr')
      exact stable p progress (h r hr p hp progress (calls p.task progress hprogress))
  | proceeds task hold store held memory taken others =>
      obtain rfl := Option.some.inj (store.symm.trans hr')
      by_cases htask : p.task = task
      · subst htask
        cases Option.some.inj (taken.symm.trans hprogress)
        exact proceeded p hold ⟨r, store, hp⟩ (h r hr p hp _ held) memory
      · rw [others p.task htask] at hprogress
        exact stable p progress (h r hr p hp progress hprogress)
  | event move e he store answered sent' others =>
      cases Option.some.inj (store.symm.trans hr')
      obtain ⟨moves, rfl⟩ := runs r hr
      rcases (Actor.numbered_run moves).waiting_cases (Actor.possible_of_event? he) hp with
        ⟨hold, hother⟩ | ⟨hopened, -⟩
      · exact stable p progress (h _ hr p hold progress (others p.task progress hother hprogress))
      · obtain ⟨memory, taken⟩ := sent' p hopened
        cases Option.some.inj (taken.symm.trans hprogress)
        exact sent p ⟨_, store, hp⟩ memory

/-! ## Runs -/

/-- What the progress of a request tells: a held call asks what the request asks, and a
sample that was created has an id of its own and is there until it is removed. -/
def Carries (t : Traffic) (request : Request) : Progress HeldCall → Prop
  | .held hold => Memory.route request.call = some hold.question
  | .answered reply => ∀ draft body, request = .create draft → reply = .ok body →
      ∃ s, t.memory.Known s ∧ (s.id ∈ t.removed ∨ s ∈ t.memory.samples) ∧
        s.name = draft.name ∧ s.code = draft.code ∧ body = s.toJson

theorem Follows.carries {t t' : Traffic} (h : Follows t t') {request : Request}
    {progress : Progress HeldCall} (hc : t.Carries request progress) :
    t'.Carries request progress := by
  cases progress with
  | held hold => exact hc
  | answered reply =>
      intro draft body hrequest hreply
      obtain ⟨s, known, hs, rest⟩ := hc draft body hrequest hreply
      exact ⟨s, h.known known, h.removed_or_mem hs, rest⟩

theorem carries_of_reports {t : Traffic} {request : Request} {progress : Progress HeldCall}
    (h : t.memory.Reports request progress) : t.Carries request progress := by
  cases progress with
  | held hold => exact h
  | answered reply =>
      intro draft body hrequest hreply
      obtain ⟨s, hs, known, rest⟩ := h.2 draft body hrequest hreply
      exact ⟨s, known, .inr hs, rest⟩

/-- What every traffic is: the ids of the service are in order, the stores live through
runs, and the calls of the stores carry their requests. -/
structure Sound (t : Traffic) : Prop where
  ids : t.memory.IdsInOrder
  runs : ∀ (index : Nat) r, t.stores[index]? = some r → ∃ moves, Store.actor.run moves = r
  carries : ∀ index, t.EachCall index fun p => t.Carries p.request

theorem Sound.step {t : Traffic} (h : Sound t) (m : Move) : Sound (t.step m) := by
  have hfollows := t.follows_step m
  refine ⟨hfollows.idsInOrder h.ids, ?_, ?_⟩
  · intro index r' hr'
    obtain ⟨r, hr⟩ := exists_store_of_step hr'
    obtain ⟨moves, hrun⟩ := h.runs index r hr
    cases seen_step hr m with
    | elsewhere store calls => exact ⟨moves, hrun.trans (Option.some.inj (store.symm.trans hr'))⟩
    | proceeds task hold store held memory taken others =>
        exact ⟨moves, hrun.trans (Option.some.inj (store.symm.trans hr'))⟩
    | event move e he store answered sent others =>
        subst hrun
        exact ⟨moves ++ [move], (Actor.run_event he).trans (Option.some.inj (store.symm.trans hr'))⟩
  · intro index
    refine (h.carries index).step m (h.runs index) ?_ ?_ ?_
    · intro p progress
      exact hfollows.carries
    · intro p hold _ hheld hmemory
      apply carries_of_reports
      rw [hmemory]
      exact Memory.reports_passGate h.ids hheld
    · intro p _ hmemory
      apply carries_of_reports
      rw [hmemory]
      exact Memory.reports_receive p.request h.ids

theorem sound_fresh (samples : List (String × String)) (stores sessions : Nat) :
    Sound (fresh samples stores sessions) := by
  have hinitial : ∀ (index : Nat) r, (fresh samples stores sessions).stores[index]? = some r →
      r = Store.actor.initial := by
    intro index r hr
    exact (List.mem_replicate.mp (List.mem_of_getElem? hr)).2
  refine ⟨Memory.idsInOrder_withSamples samples, ?_, ?_⟩
  · intro index r hr
    exact ⟨[], (hinitial index r hr).symm⟩
  · intro index r hr p hp
    rw [hinitial index r hr] at hp
    simp [Actor.initial] at hp

theorem after_append (moves more : List Move) (t : Traffic) :
    t.after (moves ++ more) = (t.after moves).after more := by
  simp [after]

theorem after_concat (moves : List Move) (m : Move) (t : Traffic) :
    t.after (moves ++ [m]) = (t.after moves).step m := by
  simp [after]

theorem history_after {index : Nat} {r r' : Store.Run} {t : Traffic} (moves : List Move)
    (hr : t.stores[index]? = some r) (hr' : (t.after moves).stores[index]? = some r') :
    ∃ later, r'.history = r.history ++ later := by
  induction moves using List.reverseRecOn generalizing r' with
  | nil =>
      cases Option.some.inj (hr.symm.trans hr')
      exact ⟨[], by simp⟩
  | append_singleton moves m ih =>
      rw [after_concat] at hr'
      obtain ⟨r₀, hr₀⟩ := exists_store_of_step hr'
      obtain ⟨later, hlater⟩ := ih hr₀
      cases seen_step hr₀ m with
      | elsewhere store calls =>
          cases Option.some.inj (store.symm.trans hr')
          exact ⟨later, hlater⟩
      | proceeds task hold store held memory taken others =>
          cases Option.some.inj (store.symm.trans hr')
          exact ⟨later, hlater⟩
      | event move e he store answered sent others =>
          cases Option.some.inj (store.symm.trans hr')
          exact ⟨later ++ [e], by simp [Run.extend, hlater]⟩

theorem Sound.after {t : Traffic} (h : Sound t) (moves : List Move) : Sound (t.after moves) := by
  induction moves using List.reverseRecOn with
  | nil => exact h
  | append_singleton moves m ih =>
      rw [after_concat]
      exact ih.step m

end Traffic

end CodeShelf
