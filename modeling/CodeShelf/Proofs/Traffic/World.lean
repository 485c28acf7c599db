import CodeShelf.Proofs.Traffic

/-!
# Worlds as traffic

In a world over the service in memory a task runs on until it is over or its call is
held.  Every step of such a world is a sequence of moves of the traffic: the answer to a
call arrives at once, and what a control wakes goes on one after another.  So whatever
holds of the service and the states in all traffic holds of them in all worlds.
-/

namespace CodeShelf

namespace World

inductive Step where
  | act (task : Nat) (a : Action)
  | control (c : Control)

def perform (w : InMemory) : Step → InMemory
  | .act task a => (w.act task a).world
  | .control c => (w.control c).1.world

end World

namespace Passage

@[simp] theorem world_setStore {τ ω : Type} (index : Nat) (s : Store) (notified : Bool)
    (p : Passage τ ω) :
    (p.setStore index s notified).world = { p.world with stores := p.world.stores.set index s } := by
  simp only [setStore, notify]
  split <;> rfl

@[simp] theorem world_setSession {τ ω : Type} (index : Nat) (s : Session) (notified : Bool)
    (p : Passage τ ω) :
    (p.setSession index s notified).world =
      { p.world with sessions := p.world.sessions.set index s } := by
  simp only [setSession, notify]
  split <;> rfl

end Passage

namespace Traffic

inductive Stands (t : Traffic) : Caller → Job → Prop
  | store {index : Nat} {r : Store.Run} {p : Store.Pending} (hr : t.stores[index]? = some r)
      (hp : p ∈ r.waiting) : Stands t (.store index p.task) (.store index p.awaiting)
  | session {index : Nat} {r : Session.Run} {p : Pending Session.Operation Session.Awaiting}
      (hr : t.sessions[index]? = some r) (hp : p ∈ r.waiting) :
      Stands t (.session index p.task) (.session index p.awaiting)
  | bare {number : Nat} (reading : Reading) (h : number < t.bareCalls) :
      Stands t (.bare number) (.bare reading)

abbrev Held := Caller × Parked HeldCall

/-- A traffic that mirrors a world: the service and the states are the same, and the
tasks that are parked, and some others that are on their way, have their calls held. -/
structure Mirrors (t : Traffic) (w : World.InMemory) (parked others : List Held) : Prop where
  memory : t.memory = w.transport
  stores : t.stores.map (·.state) = w.stores
  sessions : t.sessions.map (·.state) = w.sessions
  storeRuns : ∀ (index : Nat) r, t.stores[index]? = some r →
    ∃ moves, Store.actor.run moves = r
  sessionRuns : ∀ (index : Nat) r, t.sessions[index]? = some r →
    ∃ moves, Session.actor.run moves = r
  parked_eq : parked.map (·.2) = w.parked
  held : ∀ h ∈ parked ++ others, t.calls h.1 = some (.held h.2.hold) ∧ t.Stands h.1 h.2.job
  distinct : ((parked ++ others).map (·.1)).Nodup

def Free (caller : Caller) (parked others : List Held) : Prop :=
  ∀ h ∈ parked ++ others, h.1 ≠ caller

theorem Stands.of_eq {t t' : Traffic} {caller : Caller} {job : Job} (h : t.Stands caller job)
    (stores : t'.stores = t.stores) (sessions : t'.sessions = t.sessions)
    (bareCalls : t.bareCalls ≤ t'.bareCalls) : t'.Stands caller job := by
  cases h with
  | store hr hp => exact .store (stores ▸ hr) hp
  | session hr hp => exact .session (sessions ▸ hr) hp
  | bare reading hlt => exact .bare reading (Nat.lt_of_lt_of_le hlt bareCalls)

theorem Stands.setStore {t : Traffic} {index : Nat} {r : Store.Run} {e : Store.Event}
    {caller : Caller} {job : Job} (h : t.Stands caller job) (hr : t.stores[index]? = some r)
    (hne : ∀ task, e.task? = some task → caller ≠ .store index task) :
    { t with stores := t.stores.set index (r.extend e) }.Stands caller job := by
  cases h with
  | @store j r' p hr' hp =>
      by_cases hj : index = j
      · subst hj
        cases Option.some.inj (hr.symm.trans hr')
        have hlt := (List.getElem?_eq_some_iff.mp hr).1
        refine .store (r := r.extend e) (by simp [hlt]) ?_
        exact Actor.mem_waiting_extend_of_ne hp fun htask => hne p.task htask rfl
      · exact .store (r := r') (by simp [hj, hr']) hp
  | session hr' hp => exact .session hr' hp
  | bare reading hlt => exact .bare reading hlt

theorem Stands.setSession {t : Traffic} {index : Nat} {r : Session.Run} {e : Session.Event}
    {caller : Caller} {job : Job} (h : t.Stands caller job) (hr : t.sessions[index]? = some r)
    (hne : ∀ task, e.task? = some task → caller ≠ .session index task) :
    { t with sessions := t.sessions.set index (r.extend e) }.Stands caller job := by
  cases h with
  | store hr' hp => exact .store hr' hp
  | @session j r' p hr' hp =>
      by_cases hj : index = j
      · subst hj
        cases Option.some.inj (hr.symm.trans hr')
        have hlt := (List.getElem?_eq_some_iff.mp hr).1
        refine .session (r := r.extend e) (by simp [hlt]) ?_
        exact Actor.mem_waiting_extend_of_ne hp fun htask => hne p.task htask rfl
      · exact .session (r := r') (by simp [hj, hr']) hp
  | bare reading hlt => exact .bare reading hlt

namespace Mirrors

variable {t : Traffic} {w : World.InMemory} {parked others : List Held}

theorem store_eq (h : Mirrors t w parked others) {index : Nat} {r : Store.Run}
    (hr : t.stores[index]? = some r) : w.stores[index]? = some r.state := by
  rw [← h.stores, List.getElem?_map, hr, Option.map_some]

theorem session_eq (h : Mirrors t w parked others) {index : Nat} {r : Session.Run}
    (hr : t.sessions[index]? = some r) : w.sessions[index]? = some r.state := by
  rw [← h.sessions, List.getElem?_map, hr, Option.map_some]

theorem setCall (h : Mirrors t w parked others) {caller : Caller}
    (free : Free caller parked others) (m : Memory) (progress : Option (Progress HeldCall)) :
    Mirrors { t with memory := m, calls := Function.update t.calls caller progress }
      { w with transport := m } parked others := by
  refine ⟨rfl, h.stores, h.sessions, h.storeRuns, h.sessionRuns, h.parked_eq, ?_, h.distinct⟩
  intro c hc
  obtain ⟨hheld, hstands⟩ := h.held c hc
  refine ⟨?_, hstands.of_eq rfl rfl (Nat.le_refl _)⟩
  exact (Function.update_of_ne (free c hc) _ _).trans hheld

theorem setStore (h : Mirrors t w parked others) {index : Nat} {r : Store.Run}
    (hr : t.stores[index]? = some r) {m : Store.Move} {e : Store.Event}
    (he : Store.actor.event? m r = some e)
    (free : ∀ task, e.task? = some task → Free (.store index task) parked others) :
    Mirrors { t with stores := t.stores.set index (r.extend e) }
      { w with stores := w.stores.set index e.after } parked others := by
  refine ⟨h.memory, ?_, h.sessions, ?_, h.sessionRuns, h.parked_eq, ?_, h.distinct⟩
  · rw [List.map_set, h.stores]
    rfl
  · intro j r' hr'
    by_cases hj : index = j
    · subst hj
      obtain ⟨moves, rfl⟩ := h.storeRuns index r hr
      have hlt := (List.getElem?_eq_some_iff.mp hr).1
      refine ⟨moves ++ [m], (Actor.run_event he).trans ?_⟩
      simpa [hlt] using hr'
    · exact h.storeRuns j r' (by simpa [hj] using hr')
  · intro c hc
    obtain ⟨hheld, hstands⟩ := h.held c hc
    exact ⟨hheld, hstands.setStore hr fun task htask => free task htask c hc⟩

theorem setSession (h : Mirrors t w parked others) {index : Nat} {r : Session.Run}
    (hr : t.sessions[index]? = some r) {m : Session.Move} {e : Session.Event}
    (he : Session.actor.event? m r = some e)
    (free : ∀ task, e.task? = some task → Free (.session index task) parked others) :
    Mirrors { t with sessions := t.sessions.set index (r.extend e) }
      { w with sessions := w.sessions.set index e.after } parked others := by
  refine ⟨h.memory, h.stores, ?_, h.storeRuns, ?_, h.parked_eq, ?_, h.distinct⟩
  · rw [List.map_set, h.sessions]
    rfl
  · intro j r' hr'
    by_cases hj : index = j
    · subst hj
      obtain ⟨moves, rfl⟩ := h.sessionRuns index r hr
      have hlt := (List.getElem?_eq_some_iff.mp hr).1
      refine ⟨moves ++ [m], (Actor.run_event he).trans ?_⟩
      simpa [hlt] using hr'
    · exact h.sessionRuns j r' (by simpa [hj] using hr')
  · intro c hc
    obtain ⟨hheld, hstands⟩ := h.held c hc
    exact ⟨hheld, hstands.setSession hr fun task htask => free task htask c hc⟩

end Mirrors

/-! ## Turns -/

def Continues (t : Traffic) (caller : Caller) (parked others : List Held)
    (turn : Passage Memory HeldCall × TaskNext) : Prop :=
  match turn.2 with
  | .finish _ => Mirrors t turn.1.world parked others
  | .send call job =>
      Mirrors t (turn.1.send call).1.world parked others ∧
        t.calls caller = some (turn.1.send call).2 ∧ t.Stands caller job

def taskNext {κ ρ : Type} (job : κ → Job) (outcome : ρ → Outcome) : Next κ ρ → TaskNext
  | .ask request awaiting => .send request.call (job awaiting)
  | .finish result => .finish (outcome result)

theorem continues_sendAll {ι κ ρ : Type} {t : Traffic} {p : Passage Memory HeldCall}
    {parked others : List Held} (h : Mirrors t p.world parked others) {caller : Nat → Caller}
    {task : Nat} (free : Free (caller task) parked others) (op : ι) (next : Next κ ρ)
    {job : κ → Job} {outcome : ρ → Outcome}
    (stands : ∀ request awaiting, next = .ask request awaiting →
      t.Stands (caller task) (job awaiting)) :
    Continues (t.sendAll caller (next.pending task op)) (caller task) parked others
      (p, taskNext job outcome next) := by
  cases next with
  | finish result => exact h
  | ask request awaiting =>
      have hsent := h.setCall free (t.memory.receive request.call).1
        (some (t.memory.receive request.call).2)
      refine ⟨?_, ?_, (stands request awaiting rfl).of_eq rfl rfl (Nat.le_refl _)⟩
      · simp only [Passage.send, ← h.memory]
        exact hsent
      · simp only [Passage.send, ← h.memory]
        exact Function.update_self _ _ _

theorem continues_storeTurn {t : Traffic} {p : Passage Memory HeldCall}
    {parked others : List Held} (h : Mirrors t p.world parked others) {index : Nat}
    {r : Store.Run} (hr : t.stores[index]? = some r) {m : Store.Move}
    {cause : Cause Store.Operation Store.Awaiting Store.Change} {turn : Store.StoreTurn}
    (he : Store.actor.event? m r = some (.ofTurn cause r.state turn)) {task : Nat}
    (htask : (Event.ofTurn cause r.state turn).task? = some task)
    (free : Free (.store index task) parked others) :
    Continues (t.moveStore index m) (.store index task) parked others
      (p.takeStoreTurn index turn) := by
  have hset : Mirrors _ { p.world with stores := p.world.stores.set index turn.state } _ _ :=
    h.setStore hr he fun task' htask' => by
      cases htask.symm.trans htask'
      exact free
  have hpassage : p.takeStoreTurn index turn =
      (p.setStore index turn.state turn.notified, taskNext (.store index) .store turn.next) := by
    cases hnext : turn.next <;> simp [Passage.takeStoreTurn, taskNext, hnext]
  obtain ⟨op, hopened⟩ := Actor.opened_ofTurn htask
  rw [← Passage.world_setStore index turn.state turn.notified p] at hset
  simp only [moveStore, hr, he, hopened, hpassage]
  refine continues_sendAll hset free op turn.next ?_
  intro request awaiting hnext
  refine .store (p := ⟨task, op, request, awaiting⟩) (r := r.extend (.ofTurn cause r.state turn))
    ?_ (List.mem_append_right _ ?_)
  · simp [(List.getElem?_eq_some_iff.mp hr).1]
  · rw [hopened, hnext]
    exact List.mem_singleton_self _

theorem continues_sessionTurn {t : Traffic} {p : Passage Memory HeldCall}
    {parked others : List Held} (h : Mirrors t p.world parked others) {index : Nat}
    {r : Session.Run} (hr : t.sessions[index]? = some r) {m : Session.Move}
    {cause : Cause Session.Operation Session.Awaiting Session.Change} {turn : Session.StartTurn}
    (he : Session.actor.event? m r = some (.ofTurn cause r.state turn)) {task : Nat}
    (htask : (Event.ofTurn cause r.state turn).task? = some task)
    (free : Free (.session index task) parked others) :
    Continues (t.moveSession index m) (.session index task) parked others
      (p.takeSessionTurn index turn) := by
  have hset : Mirrors _ { p.world with sessions := p.world.sessions.set index turn.state } _ _ :=
    h.setSession hr he fun task' htask' => by
      cases htask.symm.trans htask'
      exact free
  have hpassage : p.takeSessionTurn index turn =
      (p.setSession index turn.state turn.notified,
        taskNext (.session index) .session turn.next) := by
    cases hnext : turn.next <;> simp [Passage.takeSessionTurn, taskNext, hnext]
  obtain ⟨op, hopened⟩ := Actor.opened_ofTurn htask
  rw [← Passage.world_setSession index turn.state turn.notified p] at hset
  simp only [moveSession, hr, he, hopened, hpassage]
  refine continues_sendAll hset free op turn.next ?_
  intro request awaiting hnext
  refine .session (p := ⟨task, op, request, awaiting⟩)
    (r := r.extend (.ofTurn cause r.state turn)) ?_ (List.mem_append_right _ ?_)
  · simp [(List.getElem?_eq_some_iff.mp hr).1]
  · rw [hopened, hnext]
    exact List.mem_singleton_self _

/-! ## Tasks -/

theorem continues_answer {t : Traffic} {p : Passage Memory HeldCall} {parked others : List Held}
    (h : Mirrors t p.world parked others) {caller : Caller} {job : Job} {reply : Reply}
    (free : Free caller parked others) (answered : t.calls caller = some (.answered reply))
    (stands : t.Stands caller job) :
    Continues (t.step (.deliver caller)) caller parked others (p.answer job reply) := by
  have htaken : Mirrors { t with calls := Function.update t.calls caller none } p.world parked
      others := by
    have hworld : { p.world with transport := t.memory } = p.world := by rw [h.memory]
    exact hworld ▸ h.setCall free t.memory none
  cases stands with
  | @store index r q hr hq =>
      obtain ⟨moves, rfl⟩ := h.storeRuns index r hr
      simp only [step, answered, hand, Passage.answer, h.store_eq hr]
      exact continues_storeTurn htaken hr (Actor.event?_reply hq reply) rfl free
  | @session index r q hr hq =>
      obtain ⟨moves, rfl⟩ := h.sessionRuns index r hr
      simp only [step, answered, hand, Passage.answer, h.session_eq hr]
      exact continues_sessionTurn htaken hr (Actor.event?_reply hq reply) rfl free
  | bare reading hlt =>
      simp only [step, answered, hand]
      exact htaken

theorem Mirrors.park {t : Traffic} {p : Passage Memory HeldCall} {parked others : List Held}
    (h : Mirrors t p.world parked others) {caller : Caller} {job : Job} {hold : HeldCall}
    (free : Free caller parked others) (hcall : t.calls caller = some (.held hold))
    (stands : t.Stands caller job) (task : Nat) :
    Mirrors t (p.park task job hold).world (parked ++ [(caller, ⟨task, job, hold⟩)]) others := by
  have hperm : (parked ++ [(caller, Parked.mk task job hold)] ++ others).Perm
      ((caller, Parked.mk task job hold) :: (parked ++ others)) := by
    rw [List.append_assoc]
    exact List.perm_middle
  refine ⟨h.memory, h.stores, h.sessions, h.storeRuns, h.sessionRuns, ?_, ?_, ?_⟩
  · simp [Passage.park, h.parked_eq]
  · intro c hc
    rcases List.mem_cons.mp (hperm.mem_iff.mp hc) with rfl | hold
    · exact ⟨hcall, stands⟩
    · exact h.held c hold
  · refine ((hperm.map (·.1)).nodup_iff).mpr (List.nodup_cons.mpr ⟨?_, h.distinct⟩)
    intro hmem
    obtain ⟨c, hc, hcaller⟩ := List.mem_map.mp hmem
    exact free c hc hcaller

theorem mirrors_run {t : Traffic} {p : Passage Memory HeldCall} {parked others : List Held}
    (h : Mirrors t p.world parked others) {caller : Caller} {job : Job}
    {progress : Progress HeldCall} (free : Free caller parked others)
    (hcall : t.calls caller = some progress) (stands : t.Stands caller job) (task : Nat) :
    ∃ moves parked', Mirrors (t.after moves) (p.run task job progress).world parked' others := by
  fun_induction Passage.run task job progress p generalizing t with
  | case1 job p hold => exact ⟨[], _, h.park free hcall stands task⟩
  | case2 job p reply outcome hnext =>
      have hcontinues := continues_answer h free hcall stands
      rw [Continues, hnext] at hcontinues
      exact ⟨[.deliver caller], parked, hcontinues⟩
  | case3 job p reply call next hnext sent =>
      rename_i ih
      have hcontinues := continues_answer h free hcall stands
      rw [Continues, hnext] at hcontinues
      obtain ⟨hmirrors, hsent, hstands⟩ := hcontinues
      obtain ⟨moves, parked', hdone⟩ := ih hmirrors hsent hstands
      exact ⟨.deliver caller :: moves, parked', hdone⟩

theorem mirrors_begin {t : Traffic} {parked others : List Held} {caller : Caller}
    {turn : Passage Memory HeldCall × TaskNext} (h : Continues t caller parked others turn)
    (free : Free caller parked others) (task : Nat) :
    ∃ moves parked', Mirrors (t.after moves) (Passage.begin task turn).world parked' others := by
  obtain ⟨p, next⟩ := turn
  cases next with
  | finish outcome => exact ⟨[], parked, h⟩
  | send call job =>
      obtain ⟨hmirrors, hcall, hstands⟩ := h
      exact mirrors_run hmirrors free hcall hstands task

theorem Mirrors.of_cons {t : Traffic} {w : World.InMemory} {parked others : List Held} {x : Held}
    (h : Mirrors t w parked (x :: others)) :
    Mirrors t w parked others ∧ Free x.1 parked others := by
  have hperm : (parked ++ x :: others).Perm (x :: (parked ++ others)) := List.perm_middle
  have hdistinct := ((hperm.map (·.1)).nodup_iff).mp h.distinct
  rw [List.map_cons, List.nodup_cons] at hdistinct
  refine ⟨⟨h.memory, h.stores, h.sessions, h.storeRuns, h.sessionRuns, h.parked_eq, ?_,
    hdistinct.2⟩, ?_⟩
  · intro c hc
    exact h.held c (hperm.mem_iff.mpr (List.mem_cons_of_mem x hc))
  · intro c hc hcaller
    exact hdistinct.1 (List.mem_map.mpr ⟨c, hc, hcaller⟩)

theorem mirrors_wake {t : Traffic} {p : Passage Memory HeldCall} {parked others : List Held}
    (h : Mirrors t p.world parked others) :
    ∃ moves parked', Mirrors (t.after moves) (Passage.wake (others.map (·.2)) p).world parked' []
    := by
  induction others generalizing t p parked with
  | nil => exact ⟨[], parked, h⟩
  | cons x rest ih =>
      obtain ⟨caller, woken⟩ := x
      obtain ⟨hheld, hstands⟩ := h.held (caller, woken) (by simp)
      obtain ⟨hrest, hfree⟩ := h.of_cons
      have hstep : t.step (.proceed caller) =
          t.record caller (t.memory.passGate woken.hold.question) := by
        simp only [step, hheld]
      have hproceeded : Mirrors (t.step (.proceed caller))
          { p.world with transport := (Transport.proceed woken.hold p.world.transport).1 }
          parked rest := by
        rw [hstep, ← h.memory]
        exact hrest.setCall hfree _ _
      have hcall : (t.step (.proceed caller)).calls caller =
          some (Transport.proceed woken.hold p.world.transport).2 := by
        rw [hstep, ← h.memory]
        exact Function.update_self _ _ _
      have hstands' : (t.step (.proceed caller)).Stands caller woken.job := by
        rw [hstep]
        exact hstands.of_eq rfl rfl (Nat.le_refl _)
      obtain ⟨moves, parked₁, hrun⟩ := mirrors_run
        (p := { p with world := _ }) hproceeded hfree hcall hstands' woken.task
      obtain ⟨more, parked₂, hdone⟩ := ih hrun
      refine ⟨.proceed caller :: moves ++ more, parked₂, ?_⟩
      rw [after_append]
      exact hdone

theorem mirrors_wakeWhere {t : Traffic} {w : World.InMemory} {parked : List Held}
    (h : Mirrors t w parked []) (chosen : HeldCall → Bool) :
    ∃ moves parked', Mirrors (t.after moves) (w.wakeWhere chosen).world parked' [] := by
  have hperm : (parked.filter (fun x => !chosen x.2.hold) ++
      parked.filter fun x => chosen x.2.hold).Perm parked := by
    refine List.perm_append_comm.trans ?_
    exact List.filter_append_perm _ parked
  have hfilter : ∀ f : HeldCall → Bool, (parked.filter fun x => f x.2.hold).map (·.2) =
      w.parked.filter fun x => f x.hold := by
    intro f
    rw [← h.parked_eq, List.filter_map]
    rfl
  have hsplit : Mirrors t { w with parked := w.parked.filter fun x => !chosen x.hold }
      (parked.filter fun x => !chosen x.2.hold) (parked.filter fun x => chosen x.2.hold) := by
    refine ⟨h.memory, h.stores, h.sessions, h.storeRuns, h.sessionRuns,
      hfilter fun hold => !chosen hold, ?_, ?_⟩
    · intro c hc
      exact h.held c (by simpa using hperm.mem_iff.mp hc)
    · exact ((hperm.map (·.1)).nodup_iff).mpr (by simpa using h.distinct)
  obtain ⟨moves, parked', hdone⟩ := mirrors_wake (p := { world := _ }) hsplit
  rw [hfilter chosen] at hdone
  exact ⟨moves, parked', hdone⟩

/-! ## Steps of a world -/

theorem Stands.lt_of_store {t : Traffic} {caller : Caller} {job : Job} (h : t.Stands caller job)
    {index task : Nat} (hcaller : caller = .store index task) {r : Store.Run}
    (hr : t.stores[index]? = some r) (numbered : Actor.Numbered r) : task < r.tasks := by
  cases h with
  | store hr' hp =>
      cases hcaller
      cases Option.some.inj (hr.symm.trans hr')
      exact numbered.1 _ hp
  | session hr' hp => cases hcaller
  | bare reading hlt => cases hcaller

theorem Stands.lt_of_session {t : Traffic} {caller : Caller} {job : Job}
    (h : t.Stands caller job) {index task : Nat} (hcaller : caller = .session index task)
    {r : Session.Run} (hr : t.sessions[index]? = some r) (numbered : Actor.Numbered r) :
    task < r.tasks := by
  cases h with
  | store hr' hp => cases hcaller
  | session hr' hp =>
      cases hcaller
      cases Option.some.inj (hr.symm.trans hr')
      exact numbered.1 _ hp
  | bare reading hlt => cases hcaller

theorem Stands.lt_of_bare {t : Traffic} {caller : Caller} {job : Job} (h : t.Stands caller job)
    {number : Nat} (hcaller : caller = .bare number) : number < t.bareCalls := by
  cases h with
  | store hr hp => cases hcaller
  | session hr hp => cases hcaller
  | bare reading hlt =>
      cases hcaller
      exact hlt

namespace Mirrors

variable {t : Traffic} {w : World.InMemory} {parked others : List Held}

theorem free_store (h : Mirrors t w parked others) {index : Nat} {r : Store.Run}
    (hr : t.stores[index]? = some r) : Free (.store index r.tasks) parked others := by
  intro c hc hcaller
  obtain ⟨moves, rfl⟩ := h.storeRuns index r hr
  exact Nat.lt_irrefl _ ((h.held c hc).2.lt_of_store hcaller hr (Actor.numbered_run moves))

theorem free_session (h : Mirrors t w parked others) {index : Nat} {r : Session.Run}
    (hr : t.sessions[index]? = some r) : Free (.session index r.tasks) parked others := by
  intro c hc hcaller
  obtain ⟨moves, rfl⟩ := h.sessionRuns index r hr
  exact Nat.lt_irrefl _ ((h.held c hc).2.lt_of_session hcaller hr (Actor.numbered_run moves))

theorem free_bare (h : Mirrors t w parked others) : Free (.bare t.bareCalls) parked others := by
  intro c hc hcaller
  exact Nat.lt_irrefl _ ((h.held c hc).2.lt_of_bare hcaller)

theorem countBare (h : Mirrors t w parked others) :
    Mirrors { t with bareCalls := t.bareCalls + 1 } w parked others := by
  refine ⟨h.memory, h.stores, h.sessions, h.storeRuns, h.sessionRuns, h.parked_eq, ?_,
    h.distinct⟩
  intro c hc
  obtain ⟨hheld, hstands⟩ := h.held c hc
  exact ⟨hheld, hstands.of_eq rfl rfl (Nat.le_succ _)⟩

theorem control (h : Mirrors t w parked others) (c : Control) :
    Mirrors (t.step (.control c)) (w.withMemory (c.effect w.transport)) parked others := by
  refine ⟨by rw [← h.memory]; rfl, h.stores, h.sessions, h.storeRuns, h.sessionRuns,
    h.parked_eq, ?_, h.distinct⟩
  intro c hc
  obtain ⟨hheld, hstands⟩ := h.held c hc
  exact ⟨hheld, hstands.of_eq rfl rfl (Nat.le_refl _)⟩

end Mirrors

theorem mirrors_act {t : Traffic} {w : World.InMemory} {parked : List Held}
    (h : Mirrors t w parked []) (task : Nat) (a : Action) :
    ∃ moves parked', Mirrors (t.after moves) (w.act task a).world parked' [] := by
  cases a with
  | store index op =>
      cases hr : t.stores[index]? with
      | none =>
          have hw : w.stores[index]? = none := by simpa [← h.stores] using hr
          exact ⟨[], parked, by simpa [World.act, hw, after] using h⟩
      | some r =>
          have hturn := continues_storeTurn (p := { world := w }) (m := .start op) h hr rfl rfl
            (h.free_store hr)
          obtain ⟨moves, parked', hdone⟩ := mirrors_begin hturn (h.free_store hr) task
          refine ⟨.act (.store index op) :: moves, parked', ?_⟩
          simp only [World.act, h.store_eq hr]
          exact hdone
  | session index op =>
      cases hr : t.sessions[index]? with
      | none =>
          have hw : w.sessions[index]? = none := by simpa [← h.sessions] using hr
          exact ⟨[], parked, by simpa [World.act, hw, after] using h⟩
      | some r =>
          have hturn := continues_sessionTurn (p := { world := w }) (m := .start op) h hr rfl rfl
            (h.free_session hr)
          obtain ⟨moves, parked', hdone⟩ := mirrors_begin hturn (h.free_session hr) task
          refine ⟨.act (.session index op) :: moves, parked', ?_⟩
          simp only [World.act, h.session_eq hr]
          exact hdone
  | bare call reading =>
      have hsent := h.countBare.setCall h.free_bare (t.memory.receive call).1
        (some (t.memory.receive call).2)
      have hturn : Continues (t.step (.act (.bare call reading))) (.bare t.bareCalls) parked []
          ({ world := w }, .send call (.bare reading)) := by
        refine ⟨?_, ?_, .bare reading (Nat.lt_succ_self _)⟩
        · simp only [Passage.send, ← h.memory]
          exact hsent
        · simp only [Passage.send, ← h.memory]
          exact Function.update_self _ _ _
      obtain ⟨moves, parked', hdone⟩ := mirrors_begin hturn h.free_bare task
      exact ⟨.act (.bare call reading) :: moves, parked', hdone⟩
  | changeStore index c =>
      cases hr : t.stores[index]? with
      | none =>
          have hw : w.stores[index]? = none := by simpa [← h.stores] using hr
          exact ⟨[], parked, by simpa [World.act, hw, after] using h⟩
      | some r =>
          have hset := h.setStore (m := .change c) hr rfl fun task htask => by cases htask
          refine ⟨[.act (.changeStore index c)], parked, ?_⟩
          simp only [World.act, h.store_eq hr, Passage.world_setStore, after, List.foldl_cons,
            List.foldl_nil, step, act, moveStore, hr]
          exact hset
  | changeSession index c =>
      cases hr : t.sessions[index]? with
      | none =>
          have hw : w.sessions[index]? = none := by simpa [← h.sessions] using hr
          exact ⟨[], parked, by simpa [World.act, hw, after] using h⟩
      | some r =>
          have hset := h.setSession (m := .change c) hr rfl fun task htask => by cases htask
          refine ⟨[.act (.changeSession index c)], parked, ?_⟩
          simp only [World.act, h.session_eq hr, Passage.world_setSession, after, List.foldl_cons,
            List.foldl_nil, step, act, moveSession, hr]
          exact hset

theorem mirrors_control {t : Traffic} {w : World.InMemory} {parked : List Held}
    (h : Mirrors t w parked []) (c : Control) :
    ∃ moves parked', Mirrors (t.after moves) (w.control c).1.world parked' [] := by
  have hcontrol := h.control c
  cases c with
  | resume e =>
      obtain ⟨moves, parked', hdone⟩ :=
        mirrors_wakeWhere hcontrol fun hold => hold.wait == .pause
      exact ⟨.control (.resume e) :: moves, parked', hdone⟩
  | release e index =>
      simp only [World.control]
      split
      · obtain ⟨moves, parked', hdone⟩ :=
          mirrors_wakeWhere hcontrol fun hold => hold.wait == .gate e index
        exact ⟨.control (.release e index) :: moves, parked', hdone⟩
      · exact ⟨[.control (.release e index)], parked, hcontrol⟩
  | _ => exact ⟨[.control _], parked, hcontrol⟩

theorem mirrors_perform {t : Traffic} {w : World.InMemory} {parked : List Held}
    (h : Mirrors t w parked []) (s : World.Step) :
    ∃ moves parked', Mirrors (t.after moves) (w.perform s) parked' [] := by
  cases s with
  | act task a => exact mirrors_act h task a
  | control c => exact mirrors_control h c

/-- Whatever is done in a world over the service in memory, some traffic ends with the
same service and with its stores and sessions in the same states. -/
theorem exists_moves_of_steps (samples : List (String × String)) (stores sessions : Nat)
    (steps : List World.Step) :
    ∃ moves, let t := (fresh samples stores sessions).after moves
      let w := steps.foldl World.perform (.fresh (.withSamples samples) stores sessions)
      t.memory = w.transport ∧ t.stores.map (·.state) = w.stores ∧
        t.sessions.map (·.state) = w.sessions := by
  suffices h : ∃ moves parked, Mirrors ((fresh samples stores sessions).after moves)
      (steps.foldl World.perform (.fresh (.withSamples samples) stores sessions)) parked [] by
    obtain ⟨moves, parked, hmirrors⟩ := h
    exact ⟨moves, hmirrors.memory, hmirrors.stores, hmirrors.sessions⟩
  induction steps using List.reverseRecOn with
  | nil =>
      refine ⟨[], [], rfl, ?_, ?_, ?_, ?_, rfl, by simp, by simp⟩
      · simp [after, fresh, World.fresh, Actor.initial, Store.actor]
      · simp [after, fresh, World.fresh, Actor.initial, Session.actor]
      · intro index r hr
        exact ⟨[], (List.mem_replicate.mp (List.mem_of_getElem? hr)).2.symm⟩
      · intro index r hr
        exact ⟨[], (List.mem_replicate.mp (List.mem_of_getElem? hr)).2.symm⟩
  | append_singleton steps s ih =>
      obtain ⟨moves, parked, hmirrors⟩ := ih
      obtain ⟨more, parked', hdone⟩ := mirrors_perform hmirrors s
      refine ⟨moves ++ more, parked', ?_⟩
      rw [after_append, List.foldl_append]
      exact hdone

end Traffic

end CodeShelf
