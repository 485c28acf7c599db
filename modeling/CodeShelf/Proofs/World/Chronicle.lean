import CodeShelf.Proofs.Life
import CodeShelf.Proofs.World.Simulation

/-!
# The chronicle of a world

Stores and sessions that share a transport take their turns in the order in which the
answers come in.  The chronicle of a world keeps every turn, over every transport and
whatever is done to it from outside.  Nothing that a world reports is missing from it, and
what it tells of one component is a life: each turn starts in the state that the turn before
has left, and an answer is always one to what its task asked last.
-/

namespace CodeShelf

/-! ## Records -/

def Store.meaning : Store.Awaiting → Reply → Meaning
  | .listing _ _, r => .samples r.samples.toOption
  | .lookup _, r => .id r.id?.toOption.join
  | .content, r => .code r.code.toOption
  | .creation, r => .created r.isOk

def Session.meaning : Session.Awaiting → Reply → Meaning
  | .output, r => .output r.output.toOption

abbrev Store.Entry :=
  CodeShelf.Entry Store Store.Operation Store.Awaiting Store.Result Store.Change

abbrev Session.Entry :=
  CodeShelf.Entry Session Session.Operation Session.Awaiting Session.Result Session.Change

/-- What is recorded of a world: the turns of its components, and the ends of the tasks that
belong to none. -/
inductive Record where
  | store (index : Nat) (entry : Store.Entry)
  | session (index : Nat) (entry : Session.Entry)
  | other (task : Nat) (outcome : Outcome)

namespace Record

def store? (index : Nat) : Record → Option Store.Entry
  | store i e => if i = index then some e else none
  | _ => none

def session? (index : Nat) : Record → Option Session.Entry
  | session i e => if i = index then some e else none
  | _ => none

def outcome? : Record → Option (Nat × Outcome)
  | store _ e => e.met.task?.bind fun task => (e.next.bind Next.result?).map (task, .store ·)
  | session _ e => e.met.task?.bind fun task => (e.next.bind Next.result?).map (task, .session ·)
  | other task outcome => some (task, outcome)

def notified? : Record → Option Component
  | store i e => if e.notified then some (.store i) else none
  | session i e => if e.notified then some (.session i) else none
  | other _ _ => none

end Record

def storeLife (log : List Record) (index : Nat) : List Store.Entry :=
  log.filterMap (Record.store? index)

def sessionLife (log : List Record) (index : Nat) : List Session.Entry :=
  log.filterMap (Record.session? index)

namespace Passage

variable {τ ω : Type}

def answerRecord (task : Nat) (job : Job) (reply : Reply) (p : Passage τ ω) : Record :=
  match job with
  | .store index awaiting =>
      match p.world.stores[index]? with
      | some s =>
          .store index (.ofTurn (.reply task (Store.meaning awaiting reply)) (s.resume awaiting reply))
      | none => .other task (.store (.error .detached))
  | .session index awaiting =>
      match p.world.sessions[index]? with
      | some s =>
          .session index (.ofTurn (.reply task (Session.meaning awaiting reply))
            (Session.EndTurn.over (s.resume reply)))
      | none => .other task (.session (.error .detached))
  | .bare reading => .other task (.bare (reading.read reply))

variable [Transport τ ω]

def runRecords (task : Nat) (job : Job) (progress : Progress ω) (p : Passage τ ω) : List Record :=
  match progress with
  | .held _ => []
  | .answered reply =>
      p.answerRecord task job reply ::
        match _h : (p.answer job reply).2 with
        | .finish _ => []
        | .send call next =>
            let sent := (p.answer job reply).1.send call
            runRecords task next sent.2 sent.1
termination_by job.callsLeft
decreasing_by exact callsLeft_answer _h

theorem runRecords_of_finish {task : Nat} {job : Job} {reply : Reply} {p : Passage τ ω}
    {outcome : Outcome} (h : (p.answer job reply).2 = .finish outcome) :
    p.runRecords task job (.answered reply) = [p.answerRecord task job reply] := by
  rw [runRecords]
  split
  · rfl
  · next call next h' => cases h.symm.trans h'

theorem runRecords_of_send {task : Nat} {job next : Job} {reply : Reply} {p : Passage τ ω}
    {call : Call} (h : (p.answer job reply).2 = .send call next) :
    p.runRecords task job (.answered reply) =
      p.answerRecord task job reply ::
        ((p.answer job reply).1.send call).1.runRecords task next
          ((p.answer job reply).1.send call).2 := by
  rw [runRecords]
  split
  · next outcome h' => cases h.symm.trans h'
  · next call' next' h' =>
      cases h.symm.trans h'
      rfl

def beginRecords (task : Nat) (t : Passage τ ω × TaskNext) : List Record :=
  match t.2 with
  | .finish _ => []
  | .send call job =>
      let sent := t.1.send call
      sent.1.runRecords task job sent.2

def proceed (w : Parked ω) (p : Passage τ ω) : Passage τ ω × Progress ω :=
  let proceeded := Transport.proceed w.hold p.world.transport
  ({ p with world := { p.world with transport := proceeded.1 } }, proceeded.2)

def wakeRecords : List (Parked ω) → Passage τ ω → List Record
  | [], _ => []
  | w :: woken, p =>
      let proceeded := p.proceed w
      proceeded.1.runRecords w.task w.job proceeded.2 ++
        wakeRecords woken (proceeded.1.run w.task w.job proceeded.2)

theorem wake_cons (w : Parked ω) (woken : List (Parked ω)) (p : Passage τ ω) :
    wake (w :: woken) p = wake woken ((p.proceed w).1.run w.task w.job (p.proceed w).2) := rfl

end Passage

namespace World

variable {τ ω : Type} [Transport τ ω]

def actRecords (task : Nat) (a : Action) (w : World τ ω) : List Record :=
  let p : Passage τ ω := { world := w }
  match a with
  | .store index op =>
      match w.stores[index]? with
      | some s =>
          .store index (.ofTurn (.start task op) (s.start op)) ::
            Passage.beginRecords task (p.takeStoreTurn index (s.start op))
      | none => []
  | .session index op =>
      match w.sessions[index]? with
      | some s =>
          .session index (.ofTurn (.start task op) (s.start op)) ::
            Passage.beginRecords task (p.takeSessionTurn index (s.start op))
      | none => []
  | .bare call reading => Passage.beginRecords task (p, .send call (.bare reading))
  | .changeStore index change =>
      match w.stores[index]? with
      | some s => [.store index (.ofChange change (s.change change))]
      | none => []
  | .changeSession index change =>
      match w.sessions[index]? with
      | some s => [.session index (.ofChange change (s.change change))]
      | none => []

def wakeRecords (chosen : ω → Bool) (w : World τ ω) : List Record :=
  let woken := w.parked.filter fun t => chosen t.hold
  let world := { w with parked := w.parked.filter fun t => !chosen t.hold }
  Passage.wakeRecords woken { world := world }

end World

inductive Happening (τ ω : Type) where
  | act (a : Action)
  | wake (chosen : ω → Bool)
  | shift (f : τ → τ)

/-- A world with all that happened in it: the number of the next task, the turns, and what the
passages reported. -/
structure Chronicle (τ ω : Type) where
  world : World τ ω
  tasks : Nat := 0
  log : List Record := []
  finished : List (Nat × Outcome) := []
  notified : List Component := []

namespace Chronicle

variable {τ ω : Type} [Transport τ ω]

def fresh (transport : τ) (stores sessions : Nat) : Chronicle τ ω where
  world := .fresh transport stores sessions

def add (p : Passage τ ω) (records : List Record) (c : Chronicle τ ω) : Chronicle τ ω :=
  { c with
    world := p.world
    log := c.log ++ records
    finished := c.finished ++ p.finished
    notified := c.notified ++ p.notified }

def step (c : Chronicle τ ω) : Happening τ ω → Chronicle τ ω
  | .act a =>
      { c with tasks := c.tasks + 1 }.add (c.world.act c.tasks a) (c.world.actRecords c.tasks a)
  | .wake chosen => c.add (c.world.wakeWhere chosen) (c.world.wakeRecords chosen)
  | .shift f => { c with world := { c.world with transport := f c.world.transport } }

def after (c : Chronicle τ ω) (happenings : List (Happening τ ω)) : Chronicle τ ω :=
  happenings.foldl step c

end Chronicle

/-! ## Every component lives its own life -/

section

variable {τ ω : Type}

def TaskNext.jobs (task : Nat) : TaskNext → List (Nat × Job)
  | send _ job => [(task, job)]
  | finish _ => []

theorem TaskNext.waits_of_turn {σ ι κ ρ χ : Type} {t : Turn σ κ ρ} {met : Incident ι χ}
    {job : κ → Job} {next : TaskNext} {task : Nat} {rest jobs : List (Nat × Job)}
    (htask : met.task? = some task) (old : ∀ j ∈ rest, j ∈ jobs)
    (distinct : (task :: rest.map (·.1)).Nodup)
    (sends : ∀ call own, next = .send call own →
      ∃ request awaiting, t.next = .ask request awaiting ∧ own = job awaiting)
    {j : Nat × Job} (hj : j ∈ next.jobs task ++ rest) :
    (j ∈ jobs ∧ met.task? ≠ some j.1) ∨
      ∃ awaiting, j.2 = job awaiting ∧ met.task? = some j.1 ∧
        (Entry.ofTurn met t).awaits? = some awaiting := by
  rw [htask]
  rcases List.mem_append.mp hj with hown | hrest
  · right
    cases next with
    | finish outcome => simp [TaskNext.jobs] at hown
    | send call own =>
        obtain ⟨request, awaiting, hnext, rfl⟩ := sends call own rfl
        rw [List.mem_singleton.mp hown]
        exact ⟨awaiting, rfl, rfl, by simp [Entry.ofTurn, Entry.awaits?, hnext, Next.awaits?]⟩
  · refine .inl ⟨old j hrest, ?_⟩
    intro heq
    apply (List.nodup_cons.mp distinct).1
    rw [Option.some.inj heq]
    exact List.mem_map_of_mem hrest

theorem TaskNext.distinct_jobs (next : TaskNext) {task : Nat} {rest : List (Nat × Job)}
    (distinct : (task :: rest.map (·.1)).Nodup) :
    ((next.jobs task ++ rest).map (·.1)).Nodup := by
  cases next with
  | finish outcome => exact (List.nodup_cons.mp distinct).2
  | send call job => exact distinct

theorem TaskNext.numbered_jobs (next : TaskNext) {task tasks : Nat} {rest : List (Nat × Job)}
    (own : task < tasks) (others : ∀ j ∈ rest, j.1 < tasks) :
    ∀ j ∈ next.jobs task ++ rest, j.1 < tasks := by
  cases next with
  | finish outcome => exact others
  | send call job => exact List.forall_mem_cons.mpr ⟨own, others⟩

def World.jobs (w : World τ ω) : List (Nat × Job) :=
  w.parked.map fun t => (t.task, t.job)

theorem Passage.jobs_takeStoreTurn (index : Nat) (t : Store.StoreTurn) (p : Passage τ ω) :
    (p.takeStoreTurn index t).1.world.jobs = p.world.jobs := by
  simp [takeStoreTurn, World.jobs]

theorem Passage.jobs_takeSessionTurn (index : Nat) (t : Session.StartTurn) (p : Passage τ ω) :
    (p.takeSessionTurn index t).1.world.jobs = p.world.jobs := by
  simp [takeSessionTurn, World.jobs]

theorem Passage.jobs_answer (job : Job) (reply : Reply) (p : Passage τ ω) :
    (p.answer job reply).1.world.jobs = p.world.jobs := by
  rw [World.jobs, (frame_answer job reply p).2, World.jobs]

/-- A log that tells the lives of all components, where `jobs` are the tasks that wait. -/
structure Told (tasks : Nat) (w : World τ ω) (log : List Record) (jobs : List (Nat × Job)) :
    Prop where
  stores : Store.actor.Recounts Store.meaning w.stores (storeLife log)
    fun index task awaiting => (task, .store index awaiting) ∈ jobs
  sessions : Session.actor.Recounts Session.meaning w.sessions (sessionLife log)
    fun index task awaiting => (task, .session index awaiting) ∈ jobs
  distinct : (jobs.map (·.1)).Nodup
  numbered : ∀ j ∈ jobs, j.1 < tasks

@[simp] theorem storeLife_store (log : List Record) (i index : Nat) (e : Store.Entry) :
    storeLife (log ++ [.store i e]) index =
      if i = index then storeLife log index ++ [e] else storeLife log index := by
  by_cases h : i = index <;> simp [storeLife, Record.store?, h]

@[simp] theorem storeLife_session (log : List Record) (i : Nat) (e : Session.Entry) :
    storeLife (log ++ [.session i e]) = storeLife log := by
  funext index
  simp [storeLife, Record.store?]

@[simp] theorem storeLife_other (log : List Record) (task : Nat) (outcome : Outcome) :
    storeLife (log ++ [.other task outcome]) = storeLife log := by
  funext index
  simp [storeLife, Record.store?]

@[simp] theorem sessionLife_session (log : List Record) (i index : Nat) (e : Session.Entry) :
    sessionLife (log ++ [.session i e]) index =
      if i = index then sessionLife log index ++ [e] else sessionLife log index := by
  by_cases h : i = index <;> simp [sessionLife, Record.session?, h]

@[simp] theorem sessionLife_store (log : List Record) (i : Nat) (e : Store.Entry) :
    sessionLife (log ++ [.store i e]) = sessionLife log := by
  funext index
  simp [sessionLife, Record.session?]

@[simp] theorem sessionLife_other (log : List Record) (task : Nat) (outcome : Outcome) :
    sessionLife (log ++ [.other task outcome]) = sessionLife log := by
  funext index
  simp [sessionLife, Record.session?]

namespace Told

variable {tasks : Nat} {w : World τ ω} {log : List Record} {jobs jobs' : List (Nat × Job)}

theorem of_frame {w' : World τ ω} (h : Told tasks w log jobs) (stores : w'.stores = w.stores)
    (sessions : w'.sessions = w.sessions) : Told tasks w' log jobs where
  stores := stores ▸ h.stores
  sessions := sessions ▸ h.sessions
  distinct := h.distinct
  numbered := h.numbered

theorem of_perm (h : Told tasks w log jobs) (perm : jobs'.Perm jobs) : Told tasks w log jobs' where
  stores := h.stores.mono fun _ _ _ hj => perm.mem_iff.mp hj
  sessions := h.sessions.mono fun _ _ _ hj => perm.mem_iff.mp hj
  distinct := (perm.map _).nodup_iff.mpr h.distinct
  numbered j hj := h.numbered j (perm.mem_iff.mp hj)

theorem of_sublist (h : Told tasks w log jobs) (sub : jobs'.Sublist jobs) :
    Told tasks w log jobs' where
  stores := h.stores.mono fun _ _ _ hj => sub.mem hj
  sessions := h.sessions.mono fun _ _ _ hj => sub.mem hj
  distinct := h.distinct.sublist (sub.map _)
  numbered j hj := h.numbered j (sub.mem hj)

theorem other (h : Told tasks w log jobs) (task : Nat) (outcome : Outcome) :
    Told tasks w (log ++ [.other task outcome]) jobs where
  stores := by simpa using h.stores
  sessions := by simpa using h.sessions
  distinct := h.distinct
  numbered := h.numbered

theorem storeEntry (h : Told tasks w log jobs) {index : Nat} {s : Store}
    (hs : w.stores[index]? = some s) {e : Store.Entry}
    (he : Store.actor.Meets Store.meaning (storeLife log index) s e)
    (waiting : ∀ j ∈ jobs', (j ∈ jobs ∧ e.met.task? ≠ some j.1) ∨
      ∃ awaiting, j.2 = .store index awaiting ∧ e.met.task? = some j.1 ∧
        e.awaits? = some awaiting)
    (distinct : (jobs'.map (·.1)).Nodup) (numbered : ∀ j ∈ jobs', j.1 < tasks) :
    Told tasks { w with stores := w.stores.set index e.state } (log ++ [.store index e]) jobs' where
  stores := by
    refine h.stores.concat hs he (by simp) ?_ ?_
    · intro j hj
      simp [Ne.symm hj]
    · intro j task awaiting hw
      rcases waiting _ hw with hold | ⟨awaiting', hjob, htask, hawaits⟩
      · exact .inl hold
      · cases hjob
        exact .inr ⟨rfl, htask, hawaits⟩
  sessions := by
    rw [sessionLife_store]
    refine h.sessions.mono fun i task awaiting hw => ?_
    rcases waiting _ hw with ⟨hold, -⟩ | ⟨awaiting', hjob, -⟩
    · exact hold
    · cases hjob
  distinct := distinct
  numbered := numbered

theorem sessionEntry (h : Told tasks w log jobs) {index : Nat} {s : Session}
    (hs : w.sessions[index]? = some s) {e : Session.Entry}
    (he : Session.actor.Meets Session.meaning (sessionLife log index) s e)
    (waiting : ∀ j ∈ jobs', (j ∈ jobs ∧ e.met.task? ≠ some j.1) ∨
      ∃ awaiting, j.2 = .session index awaiting ∧ e.met.task? = some j.1 ∧
        e.awaits? = some awaiting)
    (distinct : (jobs'.map (·.1)).Nodup) (numbered : ∀ j ∈ jobs', j.1 < tasks) :
    Told tasks { w with sessions := w.sessions.set index e.state } (log ++ [.session index e])
      jobs' where
  stores := by
    rw [storeLife_session]
    refine h.stores.mono fun i task awaiting hw => ?_
    rcases waiting _ hw with ⟨hold, -⟩ | ⟨awaiting', hjob, -⟩
    · exact hold
    · cases hjob
  sessions := by
    refine h.sessions.concat hs he (by simp) ?_ ?_
    · intro j hj
      simp [Ne.symm hj]
    · intro j task awaiting hw
      rcases waiting _ hw with hold | ⟨awaiting', hjob, htask, hawaits⟩
      · exact .inl hold
      · cases hjob
        exact .inr ⟨rfl, htask, hawaits⟩
  distinct := distinct
  numbered := numbered

variable {p : Passage τ ω} {rest : List (Nat × Job)} {task : Nat}

theorem storeTurn (h : Told tasks p.world log jobs) {index : Nat} {s : Store}
    (hs : p.world.stores[index]? = some s) {met : Incident Store.Operation Store.Change}
    {t : Store.StoreTurn} (htask : met.task? = some task)
    (he : Store.actor.Meets Store.meaning (storeLife log index) s (.ofTurn met t))
    (old : ∀ j ∈ rest, j ∈ jobs) (distinct : (task :: rest.map (·.1)).Nodup)
    (numbered : task < tasks) :
    Told tasks (p.takeStoreTurn index t).1.world (log ++ [.store index (.ofTurn met t)])
      ((p.takeStoreTurn index t).2.jobs task ++ rest) := by
  rw [Passage.takeStoreTurn, Passage.world_setStore]
  refine h.storeEntry hs he ?_ (TaskNext.distinct_jobs _ distinct)
    (TaskNext.numbered_jobs _ numbered fun j hj => h.numbered j (old j hj))
  intro j hj
  refine TaskNext.waits_of_turn htask old distinct ?_ hj
  intro call job hsend
  cases hnext : t.next with
  | finish result => simp [hnext] at hsend
  | ask request awaiting =>
      simp only [hnext, TaskNext.send.injEq] at hsend
      exact ⟨request, awaiting, rfl, hsend.2.symm⟩

theorem sessionTurn (h : Told tasks p.world log jobs) {index : Nat} {s : Session}
    (hs : p.world.sessions[index]? = some s) {met : Incident Session.Operation Session.Change}
    {t : Session.StartTurn} (htask : met.task? = some task)
    (he : Session.actor.Meets Session.meaning (sessionLife log index) s (.ofTurn met t))
    (old : ∀ j ∈ rest, j ∈ jobs) (distinct : (task :: rest.map (·.1)).Nodup)
    (numbered : task < tasks) :
    Told tasks (p.takeSessionTurn index t).1.world (log ++ [.session index (.ofTurn met t)])
      ((p.takeSessionTurn index t).2.jobs task ++ rest) := by
  rw [Passage.takeSessionTurn, Passage.world_setSession]
  refine h.sessionEntry hs he ?_ (TaskNext.distinct_jobs _ distinct)
    (TaskNext.numbered_jobs _ numbered fun j hj => h.numbered j (old j hj))
  intro j hj
  refine TaskNext.waits_of_turn htask old distinct ?_ hj
  intro call job hsend
  cases hnext : t.next with
  | finish result => simp [hnext] at hsend
  | ask request awaiting =>
      simp only [hnext, TaskNext.send.injEq] at hsend
      exact ⟨request, awaiting, rfl, hsend.2.symm⟩

theorem answer {job : Job} (h : Told tasks p.world log ((task, job) :: rest)) (reply : Reply) :
    Told tasks (p.answer job reply).1.world (log ++ [p.answerRecord task job reply])
      ((p.answer job reply).2.jobs task ++ rest) := by
  have hrest : Told tasks p.world log rest := h.of_sublist (List.sublist_cons_self _ _)
  have hold : ∀ j ∈ rest, j ∈ (task, job) :: rest := fun j hj => List.mem_cons_of_mem _ hj
  have hlt : task < tasks := h.numbered _ List.mem_cons_self
  cases job with
  | store index awaiting =>
      simp only [Passage.answer, Passage.answerRecord]
      cases hs : p.world.stores[index]? with
      | none => exact hrest.other task _
      | some s =>
          have hasked := h.stores.asked index task awaiting List.mem_cons_self
          exact h.storeTurn hs rfl (.reply hasked reply) hold h.distinct hlt
  | session index awaiting =>
      simp only [Passage.answer, Passage.answerRecord]
      cases hs : p.world.sessions[index]? with
      | none => exact hrest.other task _
      | some s =>
          have hasked := h.sessions.asked index task awaiting List.mem_cons_self
          exact h.sessionTurn hs rfl (.reply hasked reply) hold h.distinct hlt
  | bare reading => exact hrest.other task _

theorem more (h : Told tasks w log jobs) : Told (tasks + 1) w log jobs :=
  { h with numbered := fun j hj => Nat.lt_succ_of_lt (h.numbered j hj) }

theorem fresh_task (h : Told tasks w log jobs) : (tasks :: jobs.map (·.1)).Nodup := by
  refine List.nodup_cons.mpr ⟨?_, h.distinct⟩
  intro hmem
  obtain ⟨j, hj, heq⟩ := List.mem_map.mp hmem
  have hlt := h.numbered j hj
  omega

/-! ### Tasks -/

variable [Transport τ ω] {others : List (Nat × Job)}

theorem run {job : Job} (progress : Progress ω)
    (h : Told tasks p.world log ((task, job) :: (p.world.jobs ++ others))) :
    Told tasks (p.run task job progress).world (log ++ p.runRecords task job progress)
      ((p.run task job progress).world.jobs ++ others) := by
  -- `others` are tasks that are neither parked nor running, such as those still to be woken.
  fun_induction Passage.run task job progress p generalizing log with
  | case1 job p hold =>
      rw [Passage.runRecords, List.append_nil]
      refine Told.of_perm (h.of_frame rfl rfl) ?_
      simp [Passage.park, World.jobs, List.perm_middle]
  | case2 job p reply outcome hnext =>
      have hanswer := h.answer reply
      rw [hnext, ← Passage.jobs_answer job reply] at hanswer
      rw [Passage.runRecords_of_finish hnext]
      exact hanswer.of_frame rfl rfl
  | case3 job p reply call next hnext sent =>
      rename_i ih
      have hanswer := h.answer reply
      rw [hnext, ← Passage.jobs_answer job reply] at hanswer
      rw [Passage.runRecords_of_send hnext, List.append_cons]
      exact ih (hanswer.of_frame rfl rfl)

theorem begin {t : Passage τ ω × TaskNext}
    (h : Told tasks t.1.world log (t.2.jobs task ++ t.1.world.jobs)) :
    Told tasks (Passage.begin task t).world (log ++ Passage.beginRecords task t)
      (Passage.begin task t).world.jobs := by
  obtain ⟨p, next⟩ := t
  cases next with
  | finish outcome =>
      rw [Passage.beginRecords, List.append_nil]
      exact h.of_frame rfl rfl
  | send call job =>
      have hrun : Told tasks (p.send call).1.world log
          ((task, job) :: ((p.send call).1.world.jobs ++ [])) := by
        rw [List.append_nil]
        exact h.of_frame rfl rfl
      have hdone := Told.run (p.send call).2 hrun
      rw [List.append_nil] at hdone
      exact hdone

theorem wake {woken : List (Parked ω)}
    (h : Told tasks p.world log (woken.map (fun t => (t.task, t.job)) ++ p.world.jobs)) :
    Told tasks (Passage.wake woken p).world (log ++ Passage.wakeRecords woken p)
      (Passage.wake woken p).world.jobs := by
  induction woken generalizing p log with
  | nil =>
      rw [Passage.wakeRecords, List.append_nil]
      exact h
  | cons w woken ih =>
      rw [Passage.wake_cons, Passage.wakeRecords, ← List.append_assoc]
      have hrun : Told tasks (p.proceed w).1.world log ((w.task, w.job) ::
          ((p.proceed w).1.world.jobs ++ woken.map fun t => (t.task, t.job))) :=
        Told.of_perm (h.of_frame rfl rfl) (List.perm_append_comm.cons _)
      exact ih (Told.of_perm (Told.run (p.proceed w).2 hrun) List.perm_append_comm)

/-! ### Happenings -/

theorem act (h : Told tasks w log w.jobs) (a : Action) :
    Told (tasks + 1) (w.act tasks a).world (log ++ w.actRecords tasks a)
      (w.act tasks a).world.jobs := by
  have hmore := h.more
  have hlt : tasks < tasks + 1 := Nat.lt_succ_self tasks
  cases a with
  | store index op =>
      simp only [World.act, World.actRecords]
      cases hs : w.stores[index]? with
      | none => simpa using hmore
      | some s =>
          have hstart := Told.storeTurn (p := { world := w }) hmore hs rfl (.start tasks op)
            (fun j hj => hj) h.fresh_task hlt
          rw [List.append_cons]
          refine Told.begin ?_
          rw [Passage.jobs_takeStoreTurn]
          exact hstart
  | session index op =>
      simp only [World.act, World.actRecords]
      cases hs : w.sessions[index]? with
      | none => simpa using hmore
      | some s =>
          have hstart := Told.sessionTurn (p := { world := w }) hmore hs rfl (.start tasks op)
            (fun j hj => hj) h.fresh_task hlt
          rw [List.append_cons]
          refine Told.begin ?_
          rw [Passage.jobs_takeSessionTurn]
          exact hstart
  | bare call reading =>
      refine Told.begin (t := (_, _)) ⟨?_, ?_, h.fresh_task, ?_⟩
      · refine hmore.stores.mono fun index task awaiting hj => ?_
        simpa [TaskNext.jobs] using hj
      · refine hmore.sessions.mono fun index task awaiting hj => ?_
        simpa [TaskNext.jobs] using hj
      · exact TaskNext.numbered_jobs _ hlt hmore.numbered
  | changeStore index change =>
      simp only [World.act, World.actRecords]
      cases hs : w.stores[index]? with
      | none => simpa using hmore
      | some s =>
          have hchange := hmore.storeEntry hs (.change change)
            (fun j hj => .inl ⟨hj, by simp [Entry.ofChange, Incident.task?]⟩) h.distinct
            hmore.numbered
          rw [Passage.world_setStore]
          exact hchange
  | changeSession index change =>
      simp only [World.act, World.actRecords]
      cases hs : w.sessions[index]? with
      | none => simpa using hmore
      | some s =>
          have hchange := hmore.sessionEntry hs (.change change)
            (fun j hj => .inl ⟨hj, by simp [Entry.ofChange, Incident.task?]⟩) h.distinct
            hmore.numbered
          rw [Passage.world_setSession]
          exact hchange

theorem wakeWhere (h : Told tasks w log w.jobs) (chosen : ω → Bool) :
    Told tasks (w.wakeWhere chosen).world (log ++ w.wakeRecords chosen)
      (w.wakeWhere chosen).world.jobs := by
  have hframe : Told tasks { w with parked := w.parked.filter fun t => !chosen t.hold } log w.jobs :=
    h.of_frame rfl rfl
  refine Told.wake (hframe.of_perm ?_)
  rw [World.jobs, World.jobs, ← List.map_append]
  exact (List.filter_append_perm (fun t => chosen t.hold) w.parked).map _

end Told

end

/-! ## Nothing is missing -/

namespace Passage

variable {τ ω : Type}

def Reports (p q : Passage τ ω) (records : List Record) : Prop :=
  q.finished = p.finished ++ records.filterMap Record.outcome? ∧
    q.notified = p.notified ++ records.filterMap Record.notified?

theorem Reports.trans {p q r : Passage τ ω} {records later : List Record}
    (h : Reports p q records) (h' : Reports q r later) : Reports p r (records ++ later) := by
  unfold Reports
  rw [h'.1, h'.2, h.1, h.2]
  simp

theorem reports_nil {p q : Passage τ ω} (finished : q.finished = p.finished)
    (notified : q.notified = p.notified) : Reports p q [] := by
  simp [Reports, finished, notified]

def settled (task : Nat) (t : Passage τ ω × TaskNext) : Passage τ ω :=
  match t.2 with
  | .finish outcome => t.1.finish task outcome
  | .send _ _ => t.1

theorem reports_storeTurn {task : Nat} (met : Incident Store.Operation Store.Change)
    (htask : met.task? = some task) (index : Nat) (t : Store.StoreTurn) (p : Passage τ ω) :
    Reports p (settled task (p.takeStoreTurn index t)) [.store index (.ofTurn met t)] := by
  obtain ⟨state, notified, next⟩ := t
  cases next <;> cases notified <;>
    simp [Reports, settled, takeStoreTurn, setStore, notify, finish, Record.outcome?,
      Record.notified?, Entry.ofTurn, htask, Next.result?]

theorem reports_sessionTurn {task : Nat} (met : Incident Session.Operation Session.Change)
    (htask : met.task? = some task) (index : Nat) (t : Session.StartTurn) (p : Passage τ ω) :
    Reports p (settled task (p.takeSessionTurn index t)) [.session index (.ofTurn met t)] := by
  obtain ⟨state, notified, next⟩ := t
  cases next <;> cases notified <;>
    simp [Reports, settled, takeSessionTurn, setSession, notify, finish, Record.outcome?,
      Record.notified?, Entry.ofTurn, htask, Next.result?]

theorem reports_changeStore (index : Nat) (c : Store.Change) (changed : Store × Bool)
    (p : Passage τ ω) :
    Reports p (p.setStore index changed.1 changed.2) [.store index (.ofChange c changed)] := by
  obtain ⟨state, notified⟩ := changed
  cases notified <;>
    simp [Reports, setStore, notify, Record.outcome?, Record.notified?, Entry.ofChange,
      Incident.task?]

theorem reports_changeSession (index : Nat) (c : Session.Change) (changed : Session × Bool)
    (p : Passage τ ω) :
    Reports p (p.setSession index changed.1 changed.2) [.session index (.ofChange c changed)] := by
  obtain ⟨state, notified⟩ := changed
  cases notified <;>
    simp [Reports, setSession, notify, Record.outcome?, Record.notified?, Entry.ofChange,
      Incident.task?]

theorem reports_other (task : Nat) (outcome : Outcome) (p : Passage τ ω) :
    Reports p (p.finish task outcome) [.other task outcome] := by
  simp [Reports, finish, Record.outcome?, Record.notified?]

theorem reports_answer (task : Nat) (job : Job) (reply : Reply) (p : Passage τ ω) :
    Reports p (settled task (p.answer job reply)) [p.answerRecord task job reply] := by
  cases job with
  | store index awaiting =>
      simp only [answer, answerRecord]
      cases p.world.stores[index]? with
      | none => exact reports_other task _ p
      | some s => exact reports_storeTurn _ rfl index _ p
  | session index awaiting =>
      simp only [answer, answerRecord]
      cases p.world.sessions[index]? with
      | none => exact reports_other task _ p
      | some s => exact reports_sessionTurn (.reply task _) rfl index (s.resume reply).over p
  | bare reading => exact reports_other task _ p

variable [Transport τ ω]

theorem reports_run (task : Nat) (job : Job) (progress : Progress ω) (p : Passage τ ω) :
    Reports p (p.run task job progress) (p.runRecords task job progress) := by
  fun_induction run task job progress p with
  | case1 job p hold =>
      rw [runRecords]
      exact reports_nil rfl rfl
  | case2 job p reply outcome hnext =>
      have hanswer := reports_answer task job reply p
      rw [settled, hnext] at hanswer
      rw [runRecords_of_finish hnext]
      exact hanswer
  | case3 job p reply call next hnext sent =>
      rename_i ih
      have hanswer := reports_answer task job reply p
      rw [settled, hnext] at hanswer
      rw [runRecords_of_send hnext]
      exact hanswer.trans ih

theorem reports_begin (task : Nat) (t : Passage τ ω × TaskNext) :
    Reports (settled task t) (begin task t) (beginRecords task t) := by
  obtain ⟨p, next⟩ := t
  cases next with
  | finish outcome => exact reports_nil rfl rfl
  | send call job => exact reports_run task job _ (p.send call).1

theorem reports_wake (woken : List (Parked ω)) (p : Passage τ ω) :
    Reports p (wake woken p) (wakeRecords woken p) := by
  induction woken generalizing p with
  | nil => exact reports_nil rfl rfl
  | cons w woken ih =>
      rw [wake_cons, wakeRecords]
      exact (reports_run w.task w.job _ (p.proceed w).1).trans (ih _)

end Passage

section

variable {τ ω : Type}

namespace Chronicle

structure Complete (c : Chronicle τ ω) : Prop where
  finished : c.finished = c.log.filterMap Record.outcome?
  notified : c.notified = c.log.filterMap Record.notified?

structure Faithful (c : Chronicle τ ω) : Prop extends Complete c where
  told : Told c.tasks c.world c.log c.world.jobs

theorem faithful_fresh (transport : τ) (stores sessions : Nat) :
    (fresh transport stores sessions : Chronicle τ ω).Faithful := by
  have hjobs : (fresh transport stores sessions : Chronicle τ ω).world.jobs = [] := rfl
  refine ⟨⟨rfl, rfl⟩, ⟨?_, by simp [hjobs]⟩, ⟨?_, by simp [hjobs]⟩, List.nodup_nil, by simp [hjobs]⟩
  · intro index s hs
    obtain rfl := List.eq_of_mem_replicate (List.mem_of_getElem? hs)
    exact .fresh
  · intro index s hs
    obtain rfl := List.eq_of_mem_replicate (List.mem_of_getElem? hs)
    exact .fresh

theorem Faithful.add {c : Chronicle τ ω} (h : c.Faithful) {p : Passage τ ω}
    {records : List Record} (reports : Passage.Reports { world := c.world } p records) {tasks : Nat}
    (told : Told tasks p.world (c.log ++ records) p.world.jobs) :
    ({ c with tasks := tasks }.add p records).Faithful where
  finished := by
    simp only [Chronicle.add, List.filterMap_append, ← h.finished, reports.1, List.nil_append]
  notified := by
    simp only [Chronicle.add, List.filterMap_append, ← h.notified, reports.2, List.nil_append]
  told := told

end Chronicle

variable [Transport τ ω]

theorem World.reports_act (task : Nat) (a : Action) (w : World τ ω) :
    Passage.Reports { world := w } (w.act task a) (w.actRecords task a) := by
  cases a with
  | store index op =>
      simp only [act, actRecords]
      cases w.stores[index]? with
      | none => exact Passage.reports_nil rfl rfl
      | some s =>
          have hstart := Passage.reports_storeTurn (.start task op) rfl index (s.start op)
            { world := w }
          exact hstart.trans (Passage.reports_begin task _)
  | session index op =>
      simp only [act, actRecords]
      cases w.sessions[index]? with
      | none => exact Passage.reports_nil rfl rfl
      | some s =>
          have hstart := Passage.reports_sessionTurn (.start task op) rfl index (s.start op)
            { world := w }
          exact hstart.trans (Passage.reports_begin task _)
  | bare call reading => exact Passage.reports_begin task _
  | changeStore index change =>
      simp only [act, actRecords]
      cases w.stores[index]? with
      | none => exact Passage.reports_nil rfl rfl
      | some s => exact Passage.reports_changeStore index change _ _
  | changeSession index change =>
      simp only [act, actRecords]
      cases w.sessions[index]? with
      | none => exact Passage.reports_nil rfl rfl
      | some s => exact Passage.reports_changeSession index change _ _

theorem World.reports_wakeWhere (chosen : ω → Bool) (w : World τ ω) :
    Passage.Reports { world := w } (w.wakeWhere chosen) (w.wakeRecords chosen) :=
  Passage.reports_wake _ _

namespace Chronicle

theorem Faithful.step {c : Chronicle τ ω} (h : c.Faithful) (e : Happening τ ω) :
    (c.step e).Faithful := by
  cases e with
  | act a => exact h.add (World.reports_act c.tasks a c.world) (h.told.act a)
  | wake chosen => exact h.add (World.reports_wakeWhere chosen c.world) (h.told.wakeWhere chosen)
  | shift f => exact ⟨⟨h.finished, h.notified⟩, h.told.of_frame rfl rfl⟩

theorem Faithful.after {c : Chronicle τ ω} (h : c.Faithful) (happenings : List (Happening τ ω)) :
    (c.after happenings).Faithful := by
  induction happenings generalizing c with
  | nil => exact h
  | cons e happenings ih => exact ih (h.step e)

end Chronicle

end

end CodeShelf
