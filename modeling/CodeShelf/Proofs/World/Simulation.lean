import CodeShelf.Proofs.Traffic.World

/-!
# Worlds over two transports

Stores and sessions see of a transport only the answers to their calls, and of a failed
call they show no more than its status.  So if two transports answer the same calls alike,
then the same actions are seen to do the same in a world over the one and in a world over
the other.
-/

namespace CodeShelf

/-! ## What is seen of a step -/

def CallError.wordless (e : CallError) : CallError :=
  { e with cause := "" }

def OperationError.wordless : OperationError → OperationError
  | .transport e => .transport e.wordless
  | e => e

def Outcome.wordless : Outcome → Outcome
  | .store r => .store (r.mapError OperationError.wordless)
  | .session r => .session (r.mapError OperationError.wordless)
  | .bare r => .bare (r.mapError CallError.wordless)

def TaskNext.wordless : TaskNext → TaskNext
  | .send call job => .send call job
  | .finish outcome => .finish outcome.wordless

/-- What is seen of a step: the stores and the sessions as it leaves them, the results of
the tasks that it ends, and the components that notify their subscribers.  The words of a
failed call are left out. -/
structure Sight where
  stores : List Store
  sessions : List Session
  finished : List (Nat × Outcome)
  notified : List Component

def Passage.sight {τ ω : Type} (p : Passage τ ω) : Sight where
  stores := p.world.stores
  sessions := p.world.sessions
  finished := p.finished.map fun f => (f.1, f.2.wordless)
  notified := p.notified

/-! ## Answers that are alike -/

inductive Reply.Alike : Reply → Reply → Prop
  | ok (v : Json) : Alike (.ok v) (.ok v)
  | error {e e' : CallError} (status : e.status = e'.status) : Alike (.error e) (.error e')

theorem Reply.Alike.refl (r : Reply) : r.Alike r := by
  cases r with
  | ok v => exact .ok v
  | error e => exact .error rfl

inductive Turn.Alike {σ κ α : Type} :
    Turn σ κ (Except OperationError α) → Turn σ κ (Except OperationError α) → Prop
  | refl (t : Turn σ κ (Except OperationError α)) : Alike t t
  | finish (state : σ) (notified : Bool) {r r' : Except OperationError α}
      (result : r.mapError OperationError.wordless = r'.mapError OperationError.wordless) :
      Alike ⟨state, notified, .finish r⟩ ⟨state, notified, .finish r'⟩

theorem CallError.wordless_eq {e e' : CallError} (h : e.status = e'.status) :
    e.wordless = e'.wordless := by
  rw [wordless, wordless, h]

theorem Store.alike_resume {r r' : Reply} (h : r.Alike r') (awaiting : Awaiting) (s : Store) :
    (s.resume awaiting r).Alike (s.resume awaiting r') := by
  cases h with
  | ok v => exact .refl _
  | @error e e' status =>
      have htransport : OperationError.wordless (.transport e) = .wordless (.transport e') :=
        congrArg OperationError.transport (CallError.wordless_eq status)
      simp only [resume]
      split
      · cases awaiting with
        | listing number purpose =>
            have hsettled : settleListing number (.error e) s = settleListing number (.error e') s :=
              rfl
            simp only [resumeLive, Reply.samples]
            rw [hsettled]
            refine .finish _ _ ?_
            cases purpose with
            | fetch => exact congrArg Except.error htransport
            | refresh => rfl
        | lookup name => exact .refl _
        | content => exact .finish _ _ (congrArg Except.error htransport)
        | creation => exact .finish _ _ (congrArg Except.error htransport)
      · exact .refl _

theorem Session.resume_eq_of_alike {r r' : Reply} (h : r.Alike r') (s : Session) :
    s.resume r = s.resume r' := by
  cases h with
  | ok v => rfl
  | error status => rfl

theorem Reading.read_of_alike {r r' : Reply} (h : r.Alike r') (reading : Reading) :
    (reading.read r).mapError CallError.wordless = (reading.read r').mapError CallError.wordless := by
  cases h with
  | ok v => rfl
  | error status =>
      have hwordless := CallError.wordless_eq status
      cases reading <;> exact congrArg Except.error hwordless

namespace Passage

variable {τ ω τ' ω' : Type} {p : Passage τ ω} {q : Passage τ' ω'}

theorem sight_setStore (h : p.sight = q.sight) (index : Nat) (s : Store) (notified : Bool) :
    (p.setStore index s notified).sight = (q.setStore index s notified).sight := by
  obtain ⟨hstores, hsessions, hfinished, hnotified⟩ := Sight.mk.inj h
  cases notified <;>
    simp only [setStore, notify, sight, hstores, hsessions, hfinished, hnotified, if_true,
      Bool.false_eq_true, if_false]

theorem sight_setSession (h : p.sight = q.sight) (index : Nat) (s : Session) (notified : Bool) :
    (p.setSession index s notified).sight = (q.setSession index s notified).sight := by
  obtain ⟨hstores, hsessions, hfinished, hnotified⟩ := Sight.mk.inj h
  cases notified <;>
    simp only [setSession, notify, sight, hstores, hsessions, hfinished, hnotified, if_true,
      Bool.false_eq_true, if_false]

theorem sight_finish (h : p.sight = q.sight) (task : Nat) {outcome outcome' : Outcome}
    (same : outcome.wordless = outcome'.wordless) :
    (p.finish task outcome).sight = (q.finish task outcome').sight := by
  obtain ⟨hstores, hsessions, hfinished, hnotified⟩ := Sight.mk.inj h
  simp only [finish, sight, List.map_append, List.map_cons, List.map_nil, hstores, hsessions,
    hfinished, hnotified, same]

theorem sight_takeStoreTurn (h : p.sight = q.sight) (index : Nat) {t t' : Store.StoreTurn}
    (alike : t.Alike t') :
    (p.takeStoreTurn index t).1.sight = (q.takeStoreTurn index t').1.sight ∧
      (p.takeStoreTurn index t).2.wordless = (q.takeStoreTurn index t').2.wordless := by
  cases alike with
  | refl t => exact ⟨sight_setStore h index t.state t.notified, rfl⟩
  | finish state notified result =>
      refine ⟨sight_setStore h index state notified, ?_⟩
      simp only [takeStoreTurn, TaskNext.wordless, Outcome.wordless, result]

theorem sight_answer (h : p.sight = q.sight) (job : Job) {r r' : Reply} (alike : r.Alike r') :
    (p.answer job r).1.sight = (q.answer job r').1.sight ∧
      (p.answer job r).2.wordless = (q.answer job r').2.wordless := by
  obtain ⟨hstores, hsessions, -, -⟩ := Sight.mk.inj h
  cases job with
  | store index awaiting =>
      simp only [answer, ← hstores]
      split
      · next s hs => exact sight_takeStoreTurn h index (Store.alike_resume alike awaiting s)
      · exact ⟨h, rfl⟩
  | session index awaiting =>
      simp only [answer, ← hsessions]
      split
      · next s hs =>
          rw [Session.resume_eq_of_alike alike]
          exact ⟨sight_setSession h index _ _, rfl⟩
      · exact ⟨h, rfl⟩
  | bare reading =>
      refine ⟨h, ?_⟩
      simp only [answer, TaskNext.wordless, Outcome.wordless, Reading.read_of_alike alike]

theorem frame_answer (job : Job) (reply : Reply) (p : Passage τ ω) :
    (p.answer job reply).1.world.transport = p.world.transport ∧
      (p.answer job reply).1.world.parked = p.world.parked := by
  cases job with
  | store index awaiting =>
      simp only [answer]
      split
      · simp [takeStoreTurn]
      · exact ⟨rfl, rfl⟩
  | session index awaiting =>
      simp only [answer]
      split
      · simp
      · exact ⟨rfl, rfl⟩
  | bare reading => exact ⟨rfl, rfl⟩

end Passage

/-! ## Transports that answer alike -/

structure Matched {τ ω τ' ω' : Type} (related : τ → τ' → Prop) (p : Passage τ ω)
    (q : Passage τ' ω') : Prop where
  transport : related p.world.transport q.world.transport
  sight : p.sight = q.sight
  idle : q.world.parked = []

namespace Matched

variable {τ ω τ' ω' : Type} {related : τ → τ' → Prop} {p : Passage τ ω} {q : Passage τ' ω'}

theorem stores_eq (h : Matched related p q) : p.world.stores = q.world.stores :=
  congrArg Sight.stores h.sight

theorem sessions_eq (h : Matched related p q) : p.world.sessions = q.world.sessions :=
  congrArg Sight.sessions h.sight

theorem next (h : Matched related p q) :
    Matched related { world := p.world : Passage τ ω } { world := q.world : Passage τ' ω' } := by
  refine ⟨h.transport, ?_, h.idle⟩
  simp only [Passage.sight, h.stores_eq, h.sessions_eq, List.map_nil]

theorem setStore (h : Matched related p q) (index : Nat) (s : Store) (notified : Bool) :
    Matched related (p.setStore index s notified) (q.setStore index s notified) :=
  ⟨by simpa using h.transport, Passage.sight_setStore h.sight index s notified,
    by simpa using h.idle⟩

theorem setSession (h : Matched related p q) (index : Nat) (s : Session) (notified : Bool) :
    Matched related (p.setSession index s notified) (q.setSession index s notified) :=
  ⟨by simpa using h.transport, Passage.sight_setSession h.sight index s notified,
    by simpa using h.idle⟩

theorem finish (h : Matched related p q) (task : Nat) {outcome outcome' : Outcome}
    (same : outcome.wordless = outcome'.wordless) :
    Matched related (p.finish task outcome) (q.finish task outcome') :=
  ⟨h.transport, Passage.sight_finish h.sight task same, h.idle⟩

theorem answer (h : Matched related p q) (job : Job) {r r' : Reply} (alike : r.Alike r') :
    Matched related (p.answer job r).1 (q.answer job r').1 := by
  refine ⟨?_, (Passage.sight_answer h.sight job alike).1, ?_⟩
  · rw [(Passage.frame_answer job r p).1, (Passage.frame_answer job r' q).1]
    exact h.transport
  · rw [(Passage.frame_answer job r' q).2]
    exact h.idle

end Matched

theorem TaskNext.exists_finish_of_wordless {next : TaskNext} {outcome : Outcome}
    (h : (TaskNext.finish outcome).wordless = next.wordless) :
    ∃ outcome', next = .finish outcome' ∧ outcome.wordless = outcome'.wordless := by
  cases next with
  | send call job => cases h
  | finish outcome' => exact ⟨outcome', rfl, TaskNext.finish.inj h⟩

theorem TaskNext.eq_send_of_wordless {next : TaskNext} {call : Call} {job : Job}
    (h : (TaskNext.send call job).wordless = next.wordless) : next = .send call job := by
  cases next with
  | send call' job' => exact h.symm
  | finish outcome => cases h

section

variable {τ ω τ' ω' : Type} [Transport τ ω] [Transport τ' ω']

/-- A relation between two transports which they keep as long as the first stays within
bounds: both answer every call at once, and alike. -/
structure Simulates (within : τ → Prop) (related : τ → τ' → Prop) : Prop where
  within_of_send : ∀ {call t}, within (Transport.send call t).1 → within t
  send : ∀ {call t t'}, related t t' → within (Transport.send call t).1 →
    related (Transport.send call t).1 (Transport.send call t').1 ∧
      ∃ r r', (Transport.send call t).2 = .answered r ∧
        (Transport.send call t').2 = .answered r' ∧ r.Alike r'

variable {within : τ → Prop} {related : τ → τ' → Prop} {p : Passage τ ω} {q : Passage τ' ω'}

/-! ### Tasks -/

theorem Passage.run_of_finish {task : Nat} {job : Job} {reply : Reply} {outcome : Outcome}
    (h : (p.answer job reply).2 = .finish outcome) :
    p.run task job (.answered reply) = (p.answer job reply).1.finish task outcome := by
  rw [run]
  split
  · next outcome' h' =>
      cases h.symm.trans h'
      rfl
  · next call next h' => cases h.symm.trans h'

theorem Passage.run_of_send {task : Nat} {job next : Job} {reply : Reply} {call : Call}
    (h : (p.answer job reply).2 = .send call next) :
    p.run task job (.answered reply) =
      ((p.answer job reply).1.send call).1.run task next ((p.answer job reply).1.send call).2 := by
  rw [run]
  split
  · next outcome h' => cases h.symm.trans h'
  · next call' next' h' =>
      cases h.symm.trans h'
      rfl

theorem Simulates.within_of_run (sim : Simulates within related) {task : Nat} {job : Job}
    {progress : Progress ω} (h : within (p.run task job progress).world.transport) :
    within p.world.transport := by
  fun_induction Passage.run task job progress p with
  | case1 job p hold => exact h
  | case2 job p reply outcome hnext =>
      rw [← (Passage.frame_answer job reply p).1]
      exact h
  | case3 job p reply call next hnext sent =>
      rename_i ih
      rw [← (Passage.frame_answer job reply p).1]
      exact sim.within_of_send (ih h)

theorem Simulates.within_of_begin (sim : Simulates within related) {task : Nat}
    {t : Passage τ ω × TaskNext} (h : within (Passage.begin task t).world.transport) :
    within t.1.world.transport := by
  obtain ⟨p, next⟩ := t
  cases next with
  | finish outcome => exact h
  | send call job => exact sim.within_of_send (sim.within_of_run h)

theorem Matched.send (sim : Simulates within related) (h : Matched related p q) {call : Call}
    (bound : within (p.send call).1.world.transport) :
    Matched related (p.send call).1 (q.send call).1 ∧
      ∃ r r', (p.send call).2 = .answered r ∧ (q.send call).2 = .answered r' ∧ r.Alike r' := by
  obtain ⟨hrelated, hanswers⟩ := sim.send h.transport bound
  exact ⟨⟨hrelated, h.sight, h.idle⟩, hanswers⟩

theorem Matched.run (sim : Simulates within related) (h : Matched related p q) {task : Nat}
    {job : Job} {r r' : Reply} (alike : r.Alike r')
    (bound : within (p.run task job (.answered r)).world.transport) :
    Matched related (p.run task job (.answered r)) (q.run task job (.answered r')) := by
  -- By induction on the calls of the task.  Answers that are alike lead to the same next call,
  -- which is within bounds since the whole run is.
  generalize hprogress : Progress.answered r = progress at bound ⊢
  fun_induction Passage.run task job progress p generalizing q r r' with
  | case1 job p hold => cases hprogress
  | case2 job p reply outcome hnext =>
      cases hprogress
      have hsame := (Passage.sight_answer h.sight job alike).2
      rw [hnext] at hsame
      obtain ⟨outcome', hnext', hwordless⟩ := TaskNext.exists_finish_of_wordless hsame
      rw [Passage.run_of_finish hnext']
      exact (h.answer job alike).finish task hwordless
  | case3 job p reply call next hnext sent =>
      rename_i ih
      cases hprogress
      have hsame := (Passage.sight_answer h.sight job alike).2
      rw [hnext] at hsame
      rw [Passage.run_of_send (TaskNext.eq_send_of_wordless hsame)]
      obtain ⟨hsent, s, s', hs, hs', halike⟩ :=
        (h.answer job alike).send sim (sim.within_of_run bound)
      rw [hs']
      exact ih hsent halike hs.symm bound

theorem Matched.begin (sim : Simulates within related) (h : Matched related p q)
    (task : Nat) (next : TaskNext) (bound : within (Passage.begin task (p, next)).world.transport) :
    Matched related (Passage.begin task (p, next)) (Passage.begin task (q, next)) := by
  cases next with
  | finish outcome => exact h.finish task rfl
  | send call job =>
      obtain ⟨hsent, r, r', hr, hr', halike⟩ := h.send sim (sim.within_of_run bound)
      simp only [Passage.begin, hr, hr'] at bound ⊢
      exact hsent.run sim halike bound

/-! ### Steps -/

theorem Simulates.within_of_act (sim : Simulates within related) {task : Nat} {a : Action}
    {w : World τ ω} (h : within (w.act task a).world.transport) : within w.transport := by
  cases a with
  | store index op =>
      simp only [World.act] at h
      split at h
      · simpa [Passage.takeStoreTurn] using sim.within_of_begin h
      · exact h
  | session index op =>
      simp only [World.act] at h
      split at h
      · simpa [Passage.takeSessionTurn] using sim.within_of_begin h
      · exact h
  | bare call reading => exact sim.within_of_begin h
  | changeStore index change =>
      simp only [World.act] at h
      split at h
      · simpa using h
      · exact h
  | changeSession index change =>
      simp only [World.act] at h
      split at h
      · simpa using h
      · exact h

theorem Matched.act (sim : Simulates within related) {w : World τ ω} {w' : World τ' ω'}
    (h : Matched related { world := w : Passage τ ω } { world := w' : Passage τ' ω' })
    (task : Nat) (a : Action) (bound : within (w.act task a).world.transport) :
    Matched related (w.act task a) (w'.act task a) := by
  have hstores : w'.stores = w.stores := h.stores_eq.symm
  have hsessions : w'.sessions = w.sessions := h.sessions_eq.symm
  cases a with
  | store index op =>
      cases hs : w.stores[index]? with
      | none => simpa only [World.act, hstores, hs] using h
      | some s =>
          simp only [World.act, hstores, hs] at bound ⊢
          exact (h.setStore index _ _).begin sim task _ bound
  | session index op =>
      cases hs : w.sessions[index]? with
      | none => simpa only [World.act, hsessions, hs] using h
      | some s =>
          simp only [World.act, hsessions, hs] at bound ⊢
          exact (h.setSession index _ _).begin sim task _ bound
  | bare call reading => exact h.begin sim task _ bound
  | changeStore index change =>
      cases hs : w.stores[index]? with
      | none => simpa only [World.act, hstores, hs] using h
      | some s =>
          simp only [World.act, hstores, hs]
          exact h.setStore index _ _
  | changeSession index change =>
      cases hs : w.sessions[index]? with
      | none => simpa only [World.act, hsessions, hs] using h
      | some s =>
          simp only [World.act, hsessions, hs]
          exact h.setSession index _ _

end

/-! ### Runs -/

namespace World

variable {τ ω : Type} [Transport τ ω]

def passage (control : Control → World τ ω → Passage τ ω) (w : World τ ω) : Step → Passage τ ω
  | .act task a => w.act task a
  | .control c => control c w

def after (control : Control → World τ ω → Passage τ ω) (w : World τ ω) (steps : List Step) :
    World τ ω :=
  steps.foldl (fun w s => (w.passage control s).world) w

def sights (control : Control → World τ ω → Passage τ ω) (w : World τ ω) : List Step → List Sight
  | [] => []
  | s :: steps =>
      (w.passage control s).sight :: sights control (w.passage control s).world steps

end World

section

variable {τ ω τ' ω' : Type} [Transport τ ω] [Transport τ' ω'] {within : τ → Prop}
  {related : τ → τ' → Prop} {control : Control → World τ ω → Passage τ ω}
  {control' : Control → World τ' ω' → Passage τ' ω'}

theorem Simulates.within_of_after (sim : Simulates within related)
    (back : ∀ c w, within (control c w).world.transport → within w.transport)
    {w : World τ ω} {steps : List World.Step} (h : within (w.after control steps).transport) :
    within w.transport := by
  induction steps generalizing w with
  | nil => exact h
  | cons s steps ih =>
      have hpassage : within (w.passage control s).world.transport := ih h
      cases s with
      | act task a => exact sim.within_of_act hpassage
      | control c => exact back c w hpassage

theorem Simulates.sights_eq (sim : Simulates within related)
    (back : ∀ c w, within (control c w).world.transport → within w.transport)
    {steps : List World.Step}
    (keep : ∀ c, World.Step.control c ∈ steps → ∀ w w',
      Matched related { world := w : Passage τ ω } { world := w' : Passage τ' ω' } →
        Matched related (control c w) (control' c w'))
    {w : World τ ω} {w' : World τ' ω'}
    (h : Matched related { world := w : Passage τ ω } { world := w' : Passage τ' ω' })
    (bound : within (w.after control steps).transport) :
    w.sights control steps = w'.sights control' steps := by
  induction steps generalizing w w' with
  | nil => rfl
  | cons s steps ih =>
      have hpassage : Matched related (w.passage control s) (w'.passage control' s) := by
        cases s with
        | act task a => exact h.act sim task a (sim.within_of_after back bound)
        | control c => exact keep c List.mem_cons_self w w' h
      have hrest := ih (fun c hc => keep c (List.mem_cons_of_mem s hc)) hpassage.next bound
      rw [World.sights, World.sights, hpassage.sight, hrest]

end

end CodeShelf
