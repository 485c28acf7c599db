import CodeShelf.Proofs.World.Chronicle

/-!
# Parked tasks

A task that is started runs until it is over or parked, and a task that is woken does the
same.  So no task gets lost and none is doubled, over any transport.  Whatever a transport
keeps about the calls that it holds, call by call, a whole step of a world keeps.
-/

namespace CodeShelf

variable {τ ω : Type}

def Progress.holds : Progress ω → List ω
  | .answered _ => []
  | .held hold => [hold]

def World.holds (w : World τ ω) : List ω :=
  w.parked.map (·.hold)

/-! ## Tasks -/

namespace Passage

def tasks (p : Passage τ ω) : List Nat :=
  p.finished.map (·.1) ++ p.world.parked.map (·.task)

theorem tasks_setStore (index : Nat) (s : Store) (notified : Bool) (p : Passage τ ω) :
    (p.setStore index s notified).tasks = p.tasks := by
  simp only [setStore, notify]
  split <;> rfl

theorem tasks_setSession (index : Nat) (s : Session) (notified : Bool) (p : Passage τ ω) :
    (p.setSession index s notified).tasks = p.tasks := by
  simp only [setSession, notify]
  split <;> rfl

theorem tasks_answer (job : Job) (reply : Reply) (p : Passage τ ω) :
    (p.answer job reply).1.tasks = p.tasks := by
  cases job with
  | store index awaiting =>
      simp only [answer]
      split
      · exact tasks_setStore _ _ _ p
      · rfl
  | session index awaiting =>
      simp only [answer]
      split
      · exact tasks_setSession _ _ _ p
      · rfl
  | bare reading => rfl

theorem tasks_finish (task : Nat) (outcome : Outcome) (p : Passage τ ω) :
    (p.finish task outcome).tasks.Perm (task :: p.tasks) := by
  simp only [tasks, finish, List.map_append, List.map_cons, List.map_nil, List.append_assoc,
    List.singleton_append]
  exact List.perm_middle

theorem tasks_park (task : Nat) (job : Job) (hold : ω) (p : Passage τ ω) :
    (p.park task job hold).tasks.Perm (task :: p.tasks) := by
  simp only [tasks, park, List.map_append, List.map_cons, List.map_nil, ← List.append_assoc]
  exact List.perm_append_singleton task _

variable [Transport τ ω]

theorem tasks_run (task : Nat) (job : Job) (progress : Progress ω) (p : Passage τ ω) :
    (p.run task job progress).tasks.Perm (task :: p.tasks) := by
  fun_induction Passage.run task job progress p with
  | case1 job p hold => exact tasks_park task job hold p
  | case2 job p reply outcome hnext =>
      rw [← tasks_answer job reply p]
      exact tasks_finish task outcome _
  | case3 job p reply call next hnext sent ih =>
      rw [← tasks_answer job reply p]
      exact ih

theorem tasks_begin (task : Nat) (t : Passage τ ω × TaskNext) :
    (begin task t).tasks.Perm (task :: t.1.tasks) := by
  simp only [begin]
  split
  · exact tasks_finish task _ t.1
  · exact tasks_run task _ _ _

theorem tasks_wake (woken : List (Parked ω)) (p : Passage τ ω) :
    (wake woken p).tasks.Perm (woken.map (·.task) ++ p.tasks) := by
  induction woken generalizing p with
  | nil => exact List.Perm.refl _
  | cons x rest ih =>
      rw [wake_cons]
      refine (ih _).trans ?_
      refine ((tasks_run x.task x.job _ _).append_left _).trans ?_
      exact List.perm_middle

end Passage

namespace World

variable [Transport τ ω]

def begins (w : World τ ω) : Step → List Nat
  | .act task (.store index _) => if index < w.stores.length then [task] else []
  | .act task (.session index _) => if index < w.sessions.length then [task] else []
  | .act task (.bare _ _) => [task]
  | _ => []

structure Beginning (w : World τ ω) (p : Passage τ ω) : Prop where
  transport : p.world.transport = w.transport
  parked : p.world.parked = w.parked
  finished : p.finished = []

inductive Acts (w : World τ ω) (task : Nat) (begun : List Nat) (p : Passage τ ω) : Prop
  | begins (t : Passage τ ω × TaskNext) (h : w.Beginning t.1) (tasks : begun = [task])
      (passage : p = Passage.begin task t)
  | idles (h : w.Beginning p) (tasks : begun = [])

omit [Transport τ ω] in
theorem beginning_setStore (index : Nat) (s : Store) (notified : Bool) (w : World τ ω) :
    w.Beginning (Passage.setStore index s notified { world := w }) := by
  simp only [Passage.setStore, Passage.notify]
  split <;> exact ⟨rfl, rfl, rfl⟩

omit [Transport τ ω] in
theorem beginning_setSession (index : Nat) (s : Session) (notified : Bool) (w : World τ ω) :
    w.Beginning (Passage.setSession index s notified { world := w }) := by
  simp only [Passage.setSession, Passage.notify]
  split <;> exact ⟨rfl, rfl, rfl⟩

theorem acts (task : Nat) (a : Action) (w : World τ ω) :
    w.Acts task (w.begins (.act task a)) (w.act task a) := by
  cases a with
  | store index op =>
      cases hs : w.stores[index]? with
      | some s =>
          have hlt := (List.getElem?_eq_some_iff.mp hs).1
          simp only [act, hs, begins, if_pos hlt]
          exact .begins _ (beginning_setStore _ _ _ w) rfl rfl
      | none =>
          have hle := List.getElem?_eq_none_iff.mp hs
          simp only [act, hs, begins, if_neg (Nat.not_lt.mpr hle)]
          exact .idles ⟨rfl, rfl, rfl⟩ rfl
  | session index op =>
      cases hs : w.sessions[index]? with
      | some s =>
          have hlt := (List.getElem?_eq_some_iff.mp hs).1
          simp only [act, hs, begins, if_pos hlt]
          exact .begins _ (beginning_setSession _ _ _ w) rfl rfl
      | none =>
          have hle := List.getElem?_eq_none_iff.mp hs
          simp only [act, hs, begins, if_neg (Nat.not_lt.mpr hle)]
          exact .idles ⟨rfl, rfl, rfl⟩ rfl
  | bare call reading =>
      exact .begins ({ world := w }, .send call (.bare reading)) ⟨rfl, rfl, rfl⟩ rfl rfl
  | changeStore index c =>
      simp only [act]
      split
      · exact .idles (beginning_setStore _ _ _ w) rfl
      · exact .idles ⟨rfl, rfl, rfl⟩ rfl
  | changeSession index c =>
      simp only [act]
      split
      · exact .idles (beginning_setSession _ _ _ w) rfl
      · exact .idles ⟨rfl, rfl, rfl⟩ rfl

theorem tasks_act (task : Nat) (a : Action) (w : World τ ω) :
    (w.act task a).tasks.Perm (w.begins (.act task a) ++ w.parked.map (·.task)) := by
  cases acts task a w with
  | begins t h tasks passage =>
      rw [tasks, passage]
      refine (Passage.tasks_begin task t).trans ?_
      simp [Passage.tasks, h.finished, h.parked]
  | idles h tasks => simp [tasks, Passage.tasks, h.finished, h.parked]

theorem tasks_wakeWhere (chosen : ω → Bool) (w : World τ ω) :
    (w.wakeWhere chosen).tasks.Perm (w.parked.map (·.task)) := by
  refine (Passage.tasks_wake _ _).trans ?_
  simp only [Passage.tasks, List.map_nil, List.nil_append]
  rw [← List.map_append]
  exact (List.filter_append_perm _ w.parked).map _

end World

/-! ## Who is parked stays parked -/

namespace Passage

variable [Transport τ ω]

theorem parked_run (task : Nat) (job : Job) (progress : Progress ω) (p : Passage τ ω) :
    p.world.parked <+: (p.run task job progress).world.parked := by
  fun_induction Passage.run task job progress p with
  | case1 job p hold => exact List.prefix_append _ _
  | case2 job p reply outcome hnext =>
      rw [← (frame_answer job reply p).2]
      exact List.prefix_refl _
  | case3 job p reply call next hnext sent ih =>
      rw [← (frame_answer job reply p).2]
      exact ih

theorem parked_begin (task : Nat) (t : Passage τ ω × TaskNext) :
    t.1.world.parked <+: (begin task t).world.parked := by
  simp only [begin]
  split
  · exact List.prefix_refl _
  · next call job _ => exact parked_run task job _ (t.1.send call).1

theorem parked_wake (woken : List (Parked ω)) (p : Passage τ ω) :
    p.world.parked <+: (wake woken p).world.parked := by
  induction woken generalizing p with
  | nil => exact List.prefix_refl _
  | cons x rest ih =>
      rw [wake_cons]
      exact (parked_run x.task x.job _ (p.proceed x).1).trans (ih _)

end Passage

theorem World.parked_act [Transport τ ω] (task : Nat) (a : Action) (w : World τ ω) :
    w.parked <+: (w.act task a).world.parked := by
  cases acts task a w with
  | begins t h tasks passage =>
      rw [← h.parked, passage]
      exact Passage.parked_begin task t
  | idles h tasks => exact h.parked ▸ List.prefix_refl _

/-! ## What the transport keeps about held calls -/

/-- Whether something about a transport, the calls that it holds and those that are about to
go on stays true when a call comes in and when one goes on. -/
structure KeptByCalls [Transport τ ω] (I : τ → List ω → List ω → Prop) : Prop where
  send : ∀ {t held woken} call, I t held woken →
    I (Transport.send call t).1 (held ++ (Transport.send call t).2.holds) woken
  proceed : ∀ {t held woken} hold, I t held (hold :: woken) →
    I (Transport.proceed hold t).1 (held ++ (Transport.proceed hold t).2.holds) woken

namespace KeptByCalls

variable [Transport τ ω] {I : τ → List ω → List ω → Prop} {woken : List ω}

theorem run (kept : KeptByCalls I) {task : Nat} {job : Job} {progress : Progress ω}
    {p : Passage τ ω} (h : I p.world.transport (p.world.holds ++ progress.holds) woken) :
    I (p.run task job progress).world.transport (p.run task job progress).world.holds woken := by
  fun_induction Passage.run task job progress p with
  | case1 job p hold => simpa [Passage.park, World.holds, Progress.holds] using h
  | case2 job p reply outcome hnext =>
      obtain ⟨htransport, hparked⟩ := Passage.frame_answer job reply p
      simpa [Passage.finish, World.holds, Progress.holds, htransport, hparked] using h
  | case3 job p reply call next hnext sent ih =>
      obtain ⟨htransport, hparked⟩ := Passage.frame_answer job reply p
      have hanswer : I (p.answer job reply).1.world.transport (p.answer job reply).1.world.holds
          woken := by
        simpa [World.holds, Progress.holds, htransport, hparked] using h
      exact ih (kept.send call hanswer)

theorem begin (kept : KeptByCalls I) {task : Nat} {t : Passage τ ω × TaskNext}
    (h : I t.1.world.transport t.1.world.holds woken) :
    I (Passage.begin task t).world.transport (Passage.begin task t).world.holds woken := by
  simp only [Passage.begin]
  split
  · exact h
  · exact kept.run (kept.send _ h)

theorem act (kept : KeptByCalls I) (task : Nat) (a : Action) {w : World τ ω}
    (h : I w.transport w.holds []) :
    I (w.act task a).world.transport (w.act task a).world.holds [] := by
  cases w.acts task a with
  | begins t hbegin tasks passage =>
      rw [passage]
      refine kept.begin ?_
      rwa [hbegin.transport, World.holds, hbegin.parked]
  | idles hidle tasks => rwa [hidle.transport, World.holds, hidle.parked]

theorem wake (kept : KeptByCalls I) (woken : List (Parked ω)) {p : Passage τ ω}
    (h : I p.world.transport p.world.holds (woken.map (·.hold))) :
    I (p.wake woken).world.transport (p.wake woken).world.holds [] := by
  induction woken generalizing p with
  | nil => exact h
  | cons x rest ih =>
      rw [Passage.wake_cons]
      exact ih (kept.run (kept.proceed x.hold h))

theorem wakeWhere (kept : KeptByCalls I) (chosen : ω → Bool) {w : World τ ω}
    (h : I w.transport (w.holds.filter fun hold => !chosen hold) (w.holds.filter chosen)) :
    I (w.wakeWhere chosen).world.transport (w.wakeWhere chosen).world.holds [] := by
  refine kept.wake _ ?_
  simpa only [World.holds, List.filter_map, Function.comp_def] using h

end KeptByCalls

end CodeShelf
