import CodeShelf.Proofs.Course
import CodeShelf.Proofs.Traffic

/-!
# Calls get through

A store that waits for an answer has its call under way.  So nothing but a pause can keep a
task from its next turn: letting its call go on and the answer arrive brings it there.
-/

namespace CodeShelf

namespace Traffic

/-! ## Every request has its call -/

def Attended (t : Traffic) : Prop :=
  ∀ index p, t.Awaits index p → t.calls (.store index p.task) ≠ none

theorem calls_record_ne_none {other : Caller} {t : Traffic} (caller : Caller)
    (taken : Memory × Progress HeldCall) (h : t.calls other ≠ none) :
    (t.record caller taken).calls other ≠ none := by
  by_cases heq : other = caller
  · simp [record, heq]
  · rwa [calls_record_of_ne heq]

theorem calls_sendAll_ne_none {ι κ : Type} {caller : Nat → Caller} {opened : List (Pending ι κ)}
    {t : Traffic} {other : Caller}
    (h : t.calls other ≠ none ∨ ∃ p ∈ opened, other = caller p.task) :
    (t.sendAll caller opened).calls other ≠ none := by
  induction opened generalizing t with
  | nil => simpa [sendAll] using h
  | cons q rest ih =>
      refine ih (t := t.send (caller q.task) q.request.call) ?_
      rcases h with hold | ⟨p, hp, rfl⟩
      · exact .inl (calls_record_ne_none _ _ hold)
      · rcases List.mem_cons.mp hp with rfl | hrest
        · exact .inl (by simp [send, record])
        · exact .inr ⟨p, hrest, rfl⟩

theorem calls_moveSession_ne_none {index : Nat} {m : Session.Move} {t : Traffic} {other : Caller}
    (h : t.calls other ≠ none) : (t.moveSession index m).calls other ≠ none := by
  simp only [moveSession]
  split
  · exact h
  · split
    · exact h
    · exact calls_sendAll_ne_none (.inl h)

theorem attended_moveStore {index : Nat} {m : Store.Move} {t : Traffic}
    (runs : ∀ r, t.stores[index]? = some r → ∃ moves, Store.actor.run moves = r)
    (h : ∀ j p, t.Awaits j p → t.calls (.store j p.task) ≠ none ∨
      j = index ∧ ∃ reply, m = .reply p.task reply) :
    (t.moveStore index m).Attended := by
  simp only [moveStore]
  split
  · next hnone =>
      intro j p hp
      rcases h j p hp with hcall | ⟨rfl, -⟩
      · exact hcall
      · obtain ⟨r, hr, -⟩ := hp
        cases hnone.symm.trans hr
  · next r hr =>
      obtain ⟨own, rfl⟩ := runs r hr
      split
      · next hevent =>
          intro j p hp
          rcases h j p hp with hcall | ⟨rfl, reply, rfl⟩
          · exact hcall
          · obtain ⟨r', hr', hp⟩ := hp
            cases Option.some.inj (hr.symm.trans hr')
            cases hevent.symm.trans (Actor.event?_reply hp reply)
      · next e he =>
          rintro j p ⟨r', hr', hp⟩
          rw [stores_sendAll] at hr'
          apply calls_sendAll_ne_none
          by_cases hj : index = j
          · subst hj
            rw [List.getElem?_set_self (List.getElem?_eq_some_iff.mp hr).1] at hr'
            cases hr'
            rcases (Actor.numbered_run own).waiting_cases (Actor.possible_of_event? he) hp with
              ⟨hold, hother⟩ | ⟨hopened, -⟩
            · rcases h index p ⟨_, hr, hold⟩ with hcall | ⟨-, reply, rfl⟩
              · exact .inl hcall
              · rw [Actor.event?_reply hold] at he
                cases he
                exact absurd rfl hother
            · exact .inr ⟨p, hopened, rfl⟩
          · rw [List.getElem?_set_ne hj] at hr'
            rcases h j p ⟨r', hr', hp⟩ with hcall | ⟨rfl, -⟩
            · exact .inl hcall
            · exact absurd rfl hj

theorem Attended.step {t : Traffic} (h : Attended t) (sound : Sound t) (m : Move) :
    Attended (t.step m) := by
  have own : ∀ index (m : Store.Move), (t.moveStore index m).Attended := fun index m =>
    attended_moveStore (sound.runs index) fun j p hp => .inl (h j p hp)
  have others : ∀ index (m : Session.Move), (t.moveSession index m).Attended := by
    rintro index m j p ⟨r, hr, hp⟩
    rw [stores_moveSession] at hr
    exact calls_moveSession_ne_none (h j p ⟨r, hr, hp⟩)
  cases m with
  | act a =>
      cases a with
      | store index op => exact own index _
      | session index op => exact others index _
      | bare call reading =>
          intro j p hp
          exact calls_record_ne_none (.bare t.bareCalls) (t.memory.receive call) (h j p hp)
      | changeStore index c => exact own index _
      | changeSession index c => exact others index _
  | proceed caller =>
      simp only [Traffic.step]
      split
      · exact fun j p hp => calls_record_ne_none _ _ (h j p hp)
      · exact h
  | deliver caller =>
      simp only [Traffic.step]
      split
      · next reply _ =>
          have hcalls : ∀ j p, t.Awaits j p → Caller.store j p.task ≠ caller →
              Function.update t.calls caller none (.store j p.task) ≠ none := by
            intro j p hp hne
            rw [Function.update_of_ne hne]
            exact h j p hp
          cases caller with
          | store index task =>
              refine attended_moveStore (sound.runs index) fun j p hp => ?_
              by_cases hcaller : Caller.store j p.task = .store index task
              · cases hcaller
                exact .inr ⟨rfl, reply, rfl⟩
              · exact .inl (hcalls j p hp hcaller)
          | session index task =>
              rintro j p ⟨r, hr, hp⟩
              rw [hand, stores_moveSession] at hr
              exact calls_moveSession_ne_none (hcalls j p ⟨r, hr, hp⟩ (by simp))
          | bare number => exact fun j p hp => hcalls j p hp (by simp)
      · exact h
  | control c => exact h

theorem Attended.after {t : Traffic} (h : Attended t) (sound : Sound t) (moves : List Move) :
    Attended (t.after moves) := by
  induction moves using List.reverseRecOn with
  | nil => exact h
  | append_singleton moves m ih =>
      rw [after_concat]
      exact ih.step (sound.after moves) m

theorem attended_fresh (samples : List (String × String)) (stores sessions : Nat) :
    Attended (fresh samples stores sessions) := by
  rintro index p ⟨r, hr, hp⟩
  rw [(List.mem_replicate.mp (List.mem_of_getElem? hr)).2] at hp
  cases hp

/-! ## Failures and pauses come from outside -/

theorem switches_step (t : Traffic) (m : Move) :
    ((t.step m).memory.failing = t.memory.failing ∧
        (t.step m).memory.paused = t.memory.paused) ∨
      ∃ c, m = .control c ∧ (t.step m).memory = c.effect t.memory := by
  cases deals_step t m with
  | nothing memory removed => exact .inl (by simp [memory])
  | receives call memory removed =>
      obtain ⟨samples, lastId, calls, gates, h⟩ := Memory.exists_receive_eq call t.memory
      exact .inl (by simp [memory, h])
  | proceeds q memory removed =>
      obtain ⟨samples, lastId, h⟩ := Memory.exists_passGate_eq q t.memory
      exact .inl (by simp [memory, h])
  | control c move memory removed => exact .inr ⟨c, move, memory⟩

/-! ## The next turn of a task -/

def seeThrough (caller : Caller) : List Move :=
  [.proceed caller, .deliver caller]

theorem exists_answered_of_not_paused {m : Memory} (unpaused : m.paused = []) (q : Question) :
    ∃ reply, (m.passGate q).2 = .answered reply := by
  rw [Memory.passGate, if_neg (by simp [unpaused])]
  split <;> exact ⟨_, rfl⟩

theorem exists_answered_of_proceed {t : Traffic} (unpaused : t.memory.paused = [])
    {caller : Caller} (h : t.calls caller ≠ none) :
    (t.step (.proceed caller)).stores = t.stores ∧
      ∃ reply, (t.step (.proceed caller)).calls caller = some (.answered reply) := by
  obtain ⟨progress, hprogress⟩ := Option.ne_none_iff_exists'.mp h
  cases progress with
  | held hold =>
      obtain ⟨reply, hreply⟩ := exists_answered_of_not_paused unpaused hold.question
      simp only [step, hprogress]
      exact ⟨rfl, reply, by simp [record, hreply]⟩
  | answered reply =>
      simp only [step, hprogress]
      exact ⟨trivial, reply, rfl⟩

theorem paused_seeThrough (t : Traffic) (caller : Caller) :
    (t.after (seeThrough caller)).memory.paused = t.memory.paused := by
  have hstep : ∀ (t : Traffic) m, (∀ c, m ≠ .control c) →
      (t.step m).memory.paused = t.memory.paused := by
    intro t m hm
    rcases switches_step t m with ⟨-, hpaused⟩ | ⟨c, hc, -⟩
    · exact hpaused
    · exact absurd hc (hm c)
  exact (hstep _ (.deliver caller) (by simp)).trans (hstep t (.proceed caller) (by simp))

theorem exists_reply_of_seeThrough {index : Nat} {r : Store.Run} {p : Store.Pending} {t : Traffic}
    (sound : Sound t) (attended : Attended t) (unpaused : t.memory.paused = [])
    (hr : t.stores[index]? = some r) (hp : p ∈ r.waiting) :
    ∃ reply e, e.cause = .reply p reply ∧
      (t.after (seeThrough (.store index p.task))).stores[index]? = some (r.extend e) := by
  obtain ⟨hstores, reply, hreply⟩ :=
    exists_answered_of_proceed unpaused (attended index p ⟨r, hr, hp⟩)
  obtain ⟨own, rfl⟩ := sound.runs index r hr
  obtain ⟨e, he, hcause⟩ : ∃ e, Store.actor.event? (.reply p.task reply) (Store.actor.run own) =
      some e ∧ e.cause = .reply p reply := ⟨_, Actor.event?_reply hp reply, rfl⟩
  refine ⟨reply, e, hcause, ?_⟩
  have hlt := (List.getElem?_eq_some_iff.mp hr).1
  simp only [seeThrough, after, List.foldl_cons, List.foldl_nil]
  generalize t.step (.proceed (.store index p.task)) = t₁ at hstores hreply
  simp only [step, hreply, hand, moveStore, hstores, hr, he]
  simp [hlt]

/-- Once nothing is paused, a task that is not over has its next turn as soon as its call
goes on and the answer arrives. -/
theorem story_seeThrough {index task : Nat} {r : Store.Run} {t : Traffic} (sound : Sound t)
    (attended : Attended t) (unpaused : t.memory.paused = [])
    (hr : t.stores[index]? = some r) (started : task < r.tasks) :
    ∃ r', (t.after (seeThrough (.store index task))).stores[index]? = some r' ∧
      r.history <+: r'.history ∧
      (r.results task = [] → (r'.story task).length = (r.story task).length + 1) := by
  by_cases hover : r.results task = []
  · obtain ⟨own, rfl⟩ := sound.runs index r hr
    have hwaits : 0 < (Store.actor.run own).waits task := by
      have hcount := Actor.results_add_waits (a := Store.actor) own task
      rw [hover, if_pos started] at hcount
      simp only [List.length_nil] at hcount
      omega
    obtain ⟨p, hp, rfl⟩ := List.mem_map.mp (List.count_pos_iff.mp hwaits)
    obtain ⟨reply, e, hcause, hr'⟩ := exists_reply_of_seeThrough sound attended unpaused hr hp
    refine ⟨_, hr', List.prefix_append _ _, fun _ => ?_⟩
    rw [Run.story_extend_of_eq (by rw [Event.task?, hcause]), List.length_append]
    rfl
  · obtain ⟨r', hr'⟩ : ∃ r', (t.after (seeThrough (.store index task))).stores[index]? =
        some r' := by
      have hlt := (List.getElem?_eq_some_iff.mp hr).1
      refine ⟨_, List.getElem?_eq_getElem ?_⟩
      simpa only [seeThrough, after, List.foldl_cons, List.foldl_nil, length_stores_step] using hlt
    obtain ⟨later, hlater⟩ := history_after _ hr hr'
    exact ⟨r', hr', ⟨later, hlater.symm⟩, fun h => absurd h hover⟩

end Traffic

end CodeShelf
