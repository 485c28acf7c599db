import CodeShelf.Proofs.World.Log
import CodeShelf.Proofs.World.Parking

/-!
# Gates and pauses

A call to a gated endpoint waits at a gate of its own, whose key is the endpoint and the
number of the call among those to it; and then, like every other call, as long as its endpoint
is paused.  The gates there are, and the calls that wait at them, are the same at all times.
A release lets one call go on, a resumption lets all go on that wait for the end of a pause,
and those whose endpoint is still paused wait again.
-/

namespace CodeShelf

def HeldCall.key? (hold : HeldCall) : Option (Endpoint × Nat) :=
  match hold.wait with
  | .gate e index => some (e, index)
  | .pause => none

def HeldCall.goesTo (e : Endpoint) (hold : HeldCall) : Bool :=
  hold.question.endpoint == e

namespace Memory

/-! ## What a call can come to -/

def noting (q : Question) (call : Call) (m : Memory) : Memory :=
  { m with calls := m.calls ++ [logged q.endpoint call] }

structure GoesOn (q : Question) (m m' : Memory) (holds : List HeldCall) : Prop where
  calls : m'.calls = m.calls
  gates : m'.gates = m.gates
  paused : m'.paused = m.paused
  gated : m'.gated = m.gated
  holds : holds = if q.endpoint ∈ m.paused then [⟨.pause, q⟩] else []

/-- What becomes of a call that comes in: it goes to no endpoint, or it is held at its gate,
or it goes on at once. -/
inductive Receives (call : Call) (m m' : Memory) (holds : List HeldCall) : Prop
  | nowhere (asks : route call = none) (memory : m' = m) (none : holds = [])
  | gate (q : Question) (asks : route call = some q) (gated : q.endpoint ∈ m.gated)
      (memory : m' = { m.noting q call with
        gates := m.gates ++ [(q.endpoint, m.callCount q.endpoint)] })
      (held : holds = [⟨.gate q.endpoint (m.callCount q.endpoint), q⟩])
  | goesOn (q : Question) (asks : route call = some q) (ungated : q.endpoint ∉ m.gated)
      (next : GoesOn q (m.noting q call) m' holds)

theorem goesOn (q : Question) (m : Memory) :
    GoesOn q m (m.passGate q).1 (m.passGate q).2.holds := by
  obtain ⟨samples, lastId, h⟩ := exists_passGate_eq q m
  refine ⟨by rw [h], by rw [h], by rw [h], by rw [h], ?_⟩
  by_cases hpaused : q.endpoint ∈ m.paused
  · rw [passGate, if_pos (by simpa using hpaused), if_pos hpaused]
    rfl
  · rw [passGate, if_neg (by simpa using hpaused), if_neg hpaused]
    split <;> rfl

theorem receives (call : Call) (m : Memory) :
    Receives call m (m.receive call).1 (m.receive call).2.holds := by
  simp only [receive]
  split
  · next hq => exact .nowhere hq rfl rfl
  · next q hq =>
      split
      · next hgated => exact .gate q hq (by simpa using hgated) rfl rfl
      · next hgated => exact .goesOn q hq (by simpa using hgated) (goesOn q _)

theorem callCount_noting (e : Endpoint) (q : Question) (call : Call) (m : Memory) :
    (m.noting q call).callCount e = m.callCount e + if q.endpoint = e then 1 else 0 := by
  by_cases h : q.endpoint = e <;> simp [callCount, noting, logged, h]

/-! ## Where held calls wait -/

/-- Where a held call waits: at its gate, whose number is that of the call among those to its
endpoint, or for the end of a pause of its endpoint. -/
inductive Waits (m : Memory) : HeldCall → Prop
  | gate {q : Question} {index : Nat} {call : Call} (key : (q.endpoint, index) ∈ m.gates)
      (asks : route call = some q)
      (log : (m.calls.filter (·.endpoint == q.endpoint))[index]? = some (logged q.endpoint call)) :
      Waits m ⟨.gate q.endpoint index, q⟩
  | pause {q : Question} (paused : q.endpoint ∈ m.paused) : Waits m ⟨.pause, q⟩

theorem Waits.mono {m m' : Memory} {hold : HeldCall} (h : m.Waits hold)
    (gates : m.gates ⊆ m'.gates) (calls : m.calls <+: m'.calls) (paused : m.paused ⊆ m'.paused) :
    m'.Waits hold := by
  cases h with
  | gate key asks log =>
      refine .gate (gates key) asks ?_
      obtain ⟨more, hmore⟩ := calls
      have hlt := (List.getElem?_eq_some_iff.mp log).1
      rwa [← hmore, List.filter_append, List.getElem?_append_left hlt]
  | pause hpaused => exact .pause (paused hpaused)

structure Guarded (m : Memory) (held : List HeldCall) : Prop where
  waits : ∀ hold ∈ held, m.Waits hold
  keys : (held.filterMap (·.key?)).Perm m.gates
  distinct : m.gates.Nodup

namespace Guarded

variable {m m' : Memory} {held holds : List HeldCall} {e : Endpoint} {index : Nat}

theorem key_mem_iff (h : Guarded m held) :
    (e, index) ∈ m.gates ↔ ∃ hold ∈ held, hold.wait = .gate e index := by
  rw [← h.keys.mem_iff, List.mem_filterMap]
  refine exists_congr fun hold => and_congr_right fun _ => ?_
  cases hwait : hold.wait <;> simp [HeldCall.key?, hwait]

theorem lt_callCount (h : Guarded m held) (key : (e, index) ∈ m.gates) :
    index < m.callCount e := by
  obtain ⟨hold, hhold, hwait⟩ := h.key_mem_iff.mp key
  cases h.waits hold hhold with
  | gate key asks log =>
      cases hwait
      exact (List.getElem?_eq_some_iff.mp log).1
  | pause paused => cases hwait

theorem next_not_mem (h : Guarded m held) : (e, m.callCount e) ∉ m.gates :=
  fun key => Nat.lt_irrefl _ (h.lt_callCount key)

theorem mono (h : Guarded m held) (gates : m'.gates = m.gates) (calls : m.calls <+: m'.calls)
    (paused : m.paused ⊆ m'.paused) : Guarded m' held := by
  refine ⟨fun hold hhold => ?_, gates ▸ h.keys, gates ▸ h.distinct⟩
  exact (h.waits hold hhold).mono (fun k hk => gates ▸ hk) calls paused

theorem goesOn (h : Guarded m held) {q : Question} (next : GoesOn q m m' holds) :
    Guarded m' (held ++ holds) := by
  have hold := h.mono next.gates (next.calls ▸ List.prefix_refl _) fun e he => next.paused ▸ he
  by_cases hpaused : q.endpoint ∈ m.paused
  · have hholds := next.holds.trans (if_pos hpaused)
    refine ⟨?_, ?_, hold.distinct⟩
    · simp only [hholds, List.mem_append, List.mem_singleton]
      rintro x (hx | rfl)
      · exact hold.waits x hx
      · exact .pause (next.paused ▸ hpaused)
    · simpa [hholds, HeldCall.key?] using hold.keys
  · rwa [next.holds.trans (if_neg hpaused), List.append_nil]

theorem noting (h : Guarded m held) (q : Question) (call : Call) :
    Guarded (m.noting q call) held :=
  h.mono rfl (List.prefix_append _ _) fun _ he => he

theorem receives (h : Guarded m held) {call : Call} (next : Receives call m m' holds) :
    Guarded m' (held ++ holds) := by
  cases next with
  | nowhere asks memory none => rwa [memory, none, List.append_nil]
  | goesOn q asks ungated next => exact (h.noting q call).goesOn next
  | gate q asks gated memory hheld =>
      subst memory hheld
      refine ⟨?_, ?_, ?_⟩
      · simp only [List.mem_append, List.mem_singleton]
        rintro x (hx | rfl)
        · refine (h.waits x hx).mono ?_ (List.prefix_append _ _) fun _ he => he
          exact List.subset_append_left _ _
        · refine .gate (List.mem_append_right _ (List.mem_singleton_self _)) asks ?_
          simp [Memory.noting, logged, callCount]
      · simpa [HeldCall.key?] using h.keys.append_right _
      · refine List.Nodup.append h.distinct (List.nodup_singleton _) ?_
        simpa using h.next_not_mem

end Guarded

theorem guarded_kept : KeptByCalls fun m held (_ : List HeldCall) => Guarded m held where
  send call h := h.receives (receives call _)
  proceed hold h := h.goesOn (goesOn hold.question _)

/-! ## What holds calls back -/

section

variable {m m' : Memory} {held woken holds : List HeldCall} {call : Call} {e : Endpoint}

/-- An endpoint is paused, and since it had the given numbers of calls and of held calls as
many have come in as are held in addition. -/
def HeldBack (e : Endpoint) (came waited : Nat) (m : Memory) (held woken : List HeldCall) : Prop :=
  e ∈ m.paused ∧
    m.callCount e + waited = came + held.countP (·.goesTo e) + woken.countP (·.goesTo e)

theorem HeldBack.goesOn {came waited : Nat} {hold : HeldCall}
    (h : HeldBack e came waited m held (hold :: woken)) (next : GoesOn hold.question m m' holds) :
    HeldBack e came waited m' (held ++ holds) woken := by
  obtain ⟨paused, hcount⟩ := h
  refine ⟨next.paused ▸ paused, ?_⟩
  rw [callCount, next.calls, ← callCount, hcount, List.countP_append, List.countP_cons]
  by_cases hto : hold.question.endpoint = e
  · have hholds := next.holds.trans (if_pos (hto ▸ paused))
    simp only [hholds, HeldCall.goesTo, hto, List.countP_singleton, beq_self_eq_true, if_true]
    omega
  · have hnone : holds.countP (·.goesTo e) = 0 := by
      rw [next.holds]
      split <;> simp [HeldCall.goesTo, hto]
    have hother : hold.goesTo e = false := by simp [HeldCall.goesTo, hto]
    simp [hnone, hother]

theorem HeldBack.receives {came waited : Nat} (h : HeldBack e came waited m held woken)
    (next : Receives call m m' holds) : HeldBack e came waited m' (held ++ holds) woken := by
  -- A call that was noted counts like one that was woken, until it goes on.
  have noted : ∀ q wait, HeldBack e came waited (m.noting q call) held (⟨wait, q⟩ :: woken) := by
    intro q wait
    refine ⟨h.1, ?_⟩
    have hcount := h.2
    rw [callCount_noting, List.countP_cons]
    simp only [HeldCall.goesTo, beq_iff_eq] at hcount ⊢
    omega
  cases next with
  | nowhere asks memory none => rwa [memory, none, List.append_nil]
  | goesOn q asks ungated next => exact (noted q .pause).goesOn next
  | gate q asks gated memory hheld =>
      subst memory hheld
      refine ⟨h.1, (noted q (.gate q.endpoint (m.callCount q.endpoint))).2.trans ?_⟩
      rw [List.countP_append, List.countP_cons, List.countP_singleton]
      omega

theorem heldBack_kept (e : Endpoint) (came waited : Nat) :
    KeptByCalls (HeldBack e came waited) where
  send call h := h.receives (receives call _)
  proceed hold h := h.goesOn (goesOn hold.question _)

theorem paused_kept (paused : List Endpoint) :
    KeptByCalls fun (m : Memory) (_ _ : List HeldCall) => m.paused = paused where
  send {m _ _} call h := by
    obtain ⟨samples, lastId, calls, gates, hm⟩ := exists_receive_eq call m
    exact (congrArg Memory.paused hm).trans h
  proceed {m _ _} hold h := (goesOn hold.question m).paused.trans h

def Gated (e : Endpoint) (first : Nat) (m : Memory) (held : List HeldCall) : Prop :=
  e ∈ m.gated ∧ ∀ index, first ≤ index → index < m.callCount e →
    ∃ hold ∈ held, hold.wait = .gate e index

theorem Gated.goesOn {first : Nat} {q : Question} (h : Gated e first m held)
    (next : GoesOn q m m' holds) : Gated e first m' (held ++ holds) := by
  refine ⟨next.gated ▸ h.1, fun index hle hlt => ?_⟩
  rw [callCount, next.calls] at hlt
  obtain ⟨hold, hhold, hwait⟩ := h.2 index hle hlt
  exact ⟨hold, List.mem_append_left _ hhold, hwait⟩

theorem Gated.receives {first : Nat} (h : Gated e first m held)
    (next : Receives call m m' holds) : Gated e first m' (held ++ holds) := by
  cases next with
  | nowhere asks memory none => rwa [memory, none, List.append_nil]
  | goesOn q asks ungated next =>
      have hne : q.endpoint ≠ e := fun heq => ungated (heq ▸ h.1)
      have noted : Gated e first (m.noting q call) held := by
        refine ⟨h.1, fun index hle hlt => h.2 index hle ?_⟩
        rwa [callCount_noting, if_neg hne] at hlt
      exact noted.goesOn next
  | gate q asks gated memory hheld =>
      subst memory hheld
      refine ⟨h.1, fun index hle hlt => ?_⟩
      change index < (m.noting q call).callCount e at hlt
      rw [callCount_noting] at hlt
      by_cases hlast : index < m.callCount e
      · obtain ⟨hold, hhold, hwait⟩ := h.2 index hle hlast
        exact ⟨hold, List.mem_append_left _ hhold, hwait⟩
      · split at hlt
        · next hto =>
            subst hto
            obtain rfl : index = m.callCount q.endpoint := by omega
            exact ⟨_, List.mem_append_right _ (List.mem_singleton_self _), rfl⟩
        · omega

theorem gated_kept (e : Endpoint) (first : Nat) :
    KeptByCalls fun m held (_ : List HeldCall) => Gated e first m held where
  send call h := h.receives (receives call _)
  proceed hold h := h.goesOn (goesOn hold.question _)

def Spent (key : Endpoint × Nat) (m : Memory) : Prop :=
  key ∉ m.gates ∧ key.2 < m.callCount key.1

theorem Spent.goesOn {key : Endpoint × Nat} {q : Question} (h : Spent key m)
    (next : GoesOn q m m' holds) : Spent key m' := by
  rw [Spent, next.gates, callCount, next.calls]
  exact h

theorem Spent.noting {key : Endpoint × Nat} (h : Spent key m) (q : Question) (call : Call) :
    Spent key (m.noting q call) := by
  refine ⟨h.1, ?_⟩
  rw [callCount_noting]
  exact Nat.lt_add_right _ h.2

theorem Spent.receives {key : Endpoint × Nat} (h : Spent key m) (next : Receives call m m' holds) :
    Spent key m' := by
  cases next with
  | nowhere asks memory none => rwa [memory]
  | goesOn q asks ungated next => exact (h.noting q call).goesOn next
  | gate q asks gated memory hheld =>
      subst memory
      refine ⟨?_, (h.noting q call).2⟩
      rw [List.mem_append, List.mem_singleton, not_or]
      refine ⟨h.1, ?_⟩
      rintro rfl
      exact Nat.lt_irrefl _ h.2

theorem spent_kept (key : Endpoint × Nat) :
    KeptByCalls fun m (_ _ : List HeldCall) => Spent key m where
  send call h := h.receives (receives call _)
  proceed hold h := h.goesOn (goesOn hold.question _)

end

end Memory

/-! ## Controls -/

theorem Memory.mem_including {e other : Endpoint} {set : List Endpoint} (h : other ∈ set) :
    other ∈ including e set := by
  rw [including]
  split
  · exact h
  · exact List.mem_append_left _ h

namespace Control

def wakes (m : Memory) : Control → HeldCall → Bool
  | .resume _, hold => hold.wait == .pause
  | .release e index, hold => m.gates.contains (e, index) && hold.wait == .gate e index
  | _, _ => false

theorem guarded_excluding {m : Memory} {held : List HeldCall} (h : m.Guarded held)
    (e : Endpoint) : Memory.Guarded { m with paused := Memory.excluding e m.paused }
      (held.filter fun hold => !(hold.wait == .pause)) := by
  refine ⟨fun hold hhold => ?_, ?_, h.distinct⟩
  · obtain ⟨hmem, hgate⟩ := List.mem_filter.mp hhold
    cases h.waits hold hmem with
    | gate key asks log => exact .gate key asks log
    | pause paused => cases hgate
  · have hkeys : (held.filter fun hold => !(hold.wait == .pause)).filterMap (·.key?) =
        held.filterMap (·.key?) := by
      rw [List.filterMap_filter]
      refine List.filterMap_congr fun hold _ => ?_
      cases hwait : hold.wait <;> simp [HeldCall.key?, hwait]
    rw [hkeys]
    exact h.keys

theorem guarded_release {m : Memory} {held : List HeldCall} (h : m.Guarded held)
    (e : Endpoint) (index : Nat) :
    Memory.Guarded { m with gates := m.gates.filter (· != (e, index)) }
      (held.filter fun hold => !(hold.wait == .gate e index)) := by
  refine ⟨fun hold hhold => ?_, ?_, h.distinct.filter _⟩
  · obtain ⟨hmem, hother⟩ := List.mem_filter.mp hhold
    cases h.waits hold hmem with
    | gate key asks log =>
        exact .gate (List.mem_filter.mpr ⟨key, by simpa using hother⟩) asks log
    | pause paused => exact .pause paused
  · have hkeys : (held.filter fun hold => !(hold.wait == .gate e index)).filterMap (·.key?) =
        (held.filterMap (·.key?)).filter (· != (e, index)) := by
      rw [List.filterMap_filter, List.filter_filterMap]
      refine List.filterMap_congr fun hold _ => ?_
      cases hwait : hold.wait with
      | gate e' index' =>
          by_cases hkey : (e', index') = (e, index) <;>
            simp_all [HeldCall.key?, Option.filter]
      | pause => simp [HeldCall.key?, hwait]
    rw [hkeys]
    exact h.keys.filter _

theorem guarded_effect {m : Memory} {held : List HeldCall} (h : m.Guarded held) (c : Control) :
    (c.effect m).Guarded (held.filter fun hold => !c.wakes m hold) := by
  cases c with
  | resume e => exact guarded_excluding h e
  | release e index =>
      by_cases hkey : m.gates.contains (e, index) = true
      · simp only [effect, Memory.release, wakes, hkey, Bool.true_and, if_true]
        exact guarded_release h e index
      · simp only [effect, Memory.release, wakes, hkey, Bool.false_and]
        simpa using h
  | pause e =>
      change Memory.Guarded _ (held.filter fun _ => true)
      rw [List.filter_true]
      exact h.mono rfl (List.prefix_refl _) fun _ => Memory.mem_including
  | _ =>
      change Memory.Guarded _ (held.filter fun _ => true)
      rw [List.filter_true]
      exact h.mono rfl (List.prefix_refl _) fun _ he => he

end Control

theorem World.wakeWhere_none {τ ω : Type} [Transport τ ω] (w : World τ ω) :
    w.wakeWhere (fun _ => false) = { world := w } := by
  simp [wakeWhere, Passage.wake]

theorem World.control_eq (c : Control) (w : InMemory) :
    (w.control c).1 =
      (w.withMemory (c.effect w.transport)).wakeWhere (c.wakes w.transport) := by
  cases c with
  | resume e => rfl
  | release e index =>
      by_cases hkey : w.transport.gates.contains (e, index) = true
      · have hwakes : (Control.release e index).wakes w.transport =
            fun hold => hold.wait == .gate e index := by
          funext hold
          simp only [Control.wakes, hkey, Bool.true_and]
        simp only [control, Control.effect, Memory.release, hwakes, hkey, if_true]
      · have hwakes : (Control.release e index).wakes w.transport = fun _ => false := by
          funext hold
          simp only [Control.wakes, hkey, Bool.false_and]
        rw [hwakes, wakeWhere_none]
        simp only [control, Control.effect, Memory.release, hkey, Bool.false_eq_true, if_false]
  | _ => exact (wakeWhere_none _).symm

theorem KeptByCalls.control {I : Memory → List HeldCall → List HeldCall → Prop}
    (kept : KeptByCalls I) (c : Control) {w : World.InMemory}
    (h : I (c.effect w.transport) (w.holds.filter fun hold => !c.wakes w.transport hold)
      (w.holds.filter (c.wakes w.transport))) :
    I (w.control c).1.world.transport (w.control c).1.world.holds [] := by
  rw [World.control_eq]
  exact kept.wakeWhere _ h

namespace Control

variable (m : Memory) (c : Control)

theorem calls_effect : (c.effect m).calls = m.calls := by
  cases c with
  | release e index =>
      simp only [effect, Memory.release]
      split <;> rfl
  | _ => rfl

theorem gates_effect : (c.effect m).gates ⊆ m.gates := by
  cases c with
  | release e index =>
      simp only [effect, Memory.release]
      split
      · exact List.filter_sublist.subset
      · exact List.Subset.refl _
  | _ => exact List.Subset.refl _

theorem gated_effect : m.gated ⊆ (c.effect m).gated := by
  cases c with
  | release e index =>
      simp only [effect, Memory.release]
      split <;> exact List.Subset.refl _
  | gate e => exact fun _ => Memory.mem_including
  | _ => exact List.Subset.refl _

end Control

/-! ## Steps -/

namespace World

variable {w : InMemory}

theorem guarded_perform (h : w.transport.Guarded w.holds) (s : Step) :
    (w.perform s).transport.Guarded (w.perform s).holds := by
  cases s with
  | act task a => exact Memory.guarded_kept.act task a h
  | control c => exact Memory.guarded_kept.control c (Control.guarded_effect h c)

theorem spent_perform {key : Endpoint × Nat} (h : Memory.Spent key w.transport) (s : Step) :
    Memory.Spent key (w.perform s).transport := by
  cases s with
  | act task a => exact (Memory.spent_kept key).act task a h
  | control c =>
      refine (Memory.spent_kept key).control c ⟨fun hkey => h.1 (c.gates_effect _ hkey), ?_⟩
      rw [Memory.callCount, c.calls_effect]
      exact h.2

theorem spent_release {e : Endpoint} {index : Nat} (h : w.transport.Guarded w.holds)
    (key : (e, index) ∈ w.transport.gates) :
    Memory.Spent (e, index) (w.perform (.control (.release e index))).transport := by
  refine (Memory.spent_kept (e, index)).control (.release e index) ?_
  have hlt := h.lt_callCount key
  rw [Control.effect, Memory.release, if_pos (by simpa using key)]
  exact ⟨by simp, hlt⟩

def calls (w : InMemory) : Step → List Call
  | .act task a => w.actCalls task a
  | .control c => (w.withMemory (c.effect w.transport)).wakeCalls (c.wakes w.transport)

/-- Whether a step lets no call past that has to wait.  Of the calls that are sent just those
are missing in the log that go to no endpoint.  Of the calls to an endpoint that is paused all
are held that were held before or have come in; a call at a gate stays there unless it is
released; and a call that has come in to a gated endpoint is at its gate. -/
structure LetsNonePast (w : InMemory) (s : Step) (w' : InMemory) : Prop where
  log : w'.transport.calls = w.transport.calls ++ (w.calls s).filterMap Memory.noted?
  paused : ∀ e ∈ w'.transport.paused,
    w'.transport.callCount e + w.holds.countP (·.goesTo e) =
      w.transport.callCount e + w'.holds.countP (·.goesTo e)
  gates : ∀ x ∈ w.parked, ∀ e index, x.hold.wait = .gate e index →
    s ≠ .control (.release e index) → x ∈ w'.parked
  gated : ∀ e ∈ w.transport.gated, ∀ index, w.transport.callCount e ≤ index →
    index < w'.transport.callCount e → ∃ x ∈ w'.parked, x.hold.wait = .gate e index

theorem calls_perform (w : InMemory) (s : Step) :
    (w.perform s).transport.calls = w.transport.calls ++ (w.calls s).filterMap Memory.noted? := by
  cases s with
  | act task a => exact logGrows_act task a w
  | control c =>
      have hlog := logGrows_wakeWhere (c.wakes w.transport) (w.withMemory (c.effect w.transport))
      rw [Passage.LogGrows] at hlog
      rw [perform, control_eq, hlog]
      change (c.effect w.transport).calls ++ _ = _
      rw [c.calls_effect, calls]

theorem countP_held (w : InMemory) (e : Endpoint) (s : Step)
    (paused : e ∈ (w.perform s).transport.paused) :
    (w.perform s).transport.callCount e + w.holds.countP (·.goesTo e) =
      w.transport.callCount e + (w.perform s).holds.countP (·.goesTo e) := by
  have kept := Memory.heldBack_kept e (w.transport.callCount e) (w.holds.countP (·.goesTo e))
  -- No task pauses or resumes anything, so the endpoint is paused while the tasks run.
  cases s with
  | act task a =>
      have hpaused := (Memory.paused_kept w.transport.paused).act task a (w := w) rfl
      change e ∈ (w.act task a).world.transport.paused at paused
      rw [hpaused] at paused
      exact (kept.act task a ⟨paused, by simp⟩).2
  | control c =>
      have hpaused :=
        (Memory.paused_kept (c.effect w.transport).paused).control c (w := w) rfl
      change e ∈ (w.control c).1.world.transport.paused at paused
      rw [hpaused] at paused
      refine (kept.control c ⟨paused, ?_⟩).2
      rw [Memory.callCount, c.calls_effect, ← Memory.callCount,
        w.holds.countP_eq_countP_filter_add _ (c.wakes w.transport)]
      omega

theorem stays_at_gate {x : Parked HeldCall} {e : Endpoint} {index : Nat} {s : Step}
    (hx : x ∈ w.parked) (hwait : x.hold.wait = .gate e index)
    (hs : s ≠ .control (.release e index)) : x ∈ (w.perform s).parked := by
  cases s with
  | act task a => exact (w.parked_act task a).subset hx
  | control c =>
      rw [perform, control_eq]
      refine (Passage.parked_wake _ _).subset (List.mem_filter.mpr ⟨hx, ?_⟩)
      cases c with
      | resume e' => simp [Control.wakes, hwait]
      | release e' index' =>
          have hother : (x.hold.wait == .gate e' index') = false := by
            rw [hwait, beq_eq_false_iff_ne]
            rintro ⟨⟩
            exact hs rfl
          simp [Control.wakes, hother]
      | _ => rfl

theorem exists_at_gate (w : InMemory) (s : Step) {e : Endpoint} {index : Nat}
    (gated : e ∈ w.transport.gated) (hle : w.transport.callCount e ≤ index)
    (hlt : index < (w.perform s).transport.callCount e) :
    ∃ x ∈ (w.perform s).parked, x.hold.wait = .gate e index := by
  have kept := Memory.gated_kept e (w.transport.callCount e)
  have hgated : Memory.Gated e (w.transport.callCount e) (w.perform s).transport
      (w.perform s).holds := by
    cases s with
    | act task a =>
        refine kept.act task a ⟨gated, fun index hle hlt => ?_⟩
        exact absurd hlt (Nat.not_lt.mpr hle)
    | control c =>
        refine kept.control c ⟨c.gated_effect _ gated, fun index hle hlt => ?_⟩
        rw [Memory.callCount, c.calls_effect] at hlt
        exact absurd hlt (Nat.not_lt.mpr hle)
  obtain ⟨hold, hhold, hwait⟩ := hgated.2 index hle hlt
  obtain ⟨x, hx, rfl⟩ := List.mem_map.mp hhold
  exact ⟨x, hx, hwait⟩

theorem letsNonePast (w : InMemory) (s : Step) : LetsNonePast w s (w.perform s) where
  log := calls_perform w s
  paused e := countP_held w e s
  gates _ hx _ _ hwait hs := stays_at_gate hx hwait hs
  gated _ gated _ hle hlt := exists_at_gate w s gated hle hlt

theorem released_iff (w : InMemory) (e : Endpoint) (index : Nat) :
    (w.control (.release e index)).2 = .released true ↔ (e, index) ∈ w.transport.gates := by
  simp only [control, Memory.release]
  by_cases h : (e, index) ∈ w.transport.gates <;> simp [h]

end World

/-! ## Accounts -/

structure Account where
  world : World.InMemory
  started : List Nat := []
  finished : List (Nat × Outcome) := []
  released : List (Endpoint × Nat) := []

namespace Account

def fresh (samples : List (String × String)) (stores sessions : Nat) : Account where
  world := .fresh (.withSamples samples) stores sessions

def finishes (w : World.InMemory) : World.Step → List (Nat × Outcome)
  | .act task a => (w.act task a).finished
  | .control c => (w.control c).1.finished

def releases (w : World.InMemory) : World.Step → List (Endpoint × Nat)
  | .control (.release e index) =>
      if (w.control (.release e index)).2 = .released true then [(e, index)] else []
  | _ => []

def step (a : Account) (s : World.Step) : Account where
  world := a.world.perform s
  started := a.started ++ a.world.begins s
  finished := a.finished ++ finishes a.world s
  released := a.released ++ releases a.world s

def after (steps : List World.Step) (a : Account) : Account :=
  steps.foldl step a

theorem tasks_perform (w : World.InMemory) (s : World.Step) :
    ((finishes w s).map (·.1) ++ (w.perform s).parked.map (·.task)).Perm
      (w.begins s ++ w.parked.map (·.task)) := by
  cases s with
  | act task a => exact w.tasks_act task a
  | control c =>
      simp only [finishes, World.perform, World.control_eq]
      exact World.tasks_wakeWhere _ (w.withMemory (c.effect w.transport))

theorem mem_releases {w : World.InMemory} {s : World.Step} {key : Endpoint × Nat}
    (h : key ∈ releases w s) :
    s = .control (.release key.1 key.2) ∧ key ∈ w.transport.gates := by
  simp only [releases] at h
  split at h
  · next e index =>
      split at h
      · next hreleased =>
          cases List.mem_singleton.mp h
          exact ⟨rfl, (w.released_iff e index).mp hreleased⟩
      · cases h
  · cases h

theorem nodup_releases (w : World.InMemory) (s : World.Step) : (releases w s).Nodup := by
  simp only [releases]
  split
  · split
    · exact List.nodup_singleton _
    · exact List.nodup_nil
  · exact List.nodup_nil

structure Sound (a : Account) : Prop where
  tasks : a.started.Perm (a.finished.map (·.1) ++ a.world.parked.map (·.task))
  guarded : a.world.transport.Guarded a.world.holds
  spent : ∀ key ∈ a.released, Memory.Spent key a.world.transport
  once : a.released.Nodup

theorem Sound.step {a : Account} (h : Sound a) (s : World.Step) : Sound (a.step s) where
  tasks := by
    have hstep := (tasks_perform a.world s).symm.append_left (a.finished.map (·.1))
    simp only [Account.step, List.map_append, List.append_assoc]
    refine (h.tasks.append_right _).trans (List.Perm.trans ?_ hstep)
    rw [List.append_assoc]
    exact List.perm_append_comm.append_left _
  guarded := World.guarded_perform h.guarded s
  spent key hkey := by
    rcases List.mem_append.mp hkey with hold | hnew
    · exact World.spent_perform (h.spent key hold) s
    · obtain ⟨rfl, hgate⟩ := mem_releases hnew
      exact World.spent_release h.guarded hgate
  once := by
    refine List.Nodup.append h.once (nodup_releases a.world s) ?_
    intro key hold hnew
    exact (h.spent key hold).1 (mem_releases hnew).2

theorem sound_fresh (samples : List (String × String)) (stores sessions : Nat) :
    Sound (fresh samples stores sessions) where
  tasks := List.Perm.refl _
  guarded := by
    obtain ⟨stored, lastId, h⟩ := Memory.exists_withSamples_eq samples
    rw [fresh, h]
    exact ⟨by simp [World.holds, World.fresh], List.Perm.refl _, List.nodup_nil⟩
  spent key hkey := by cases hkey
  once := List.nodup_nil

theorem Sound.after {a : Account} (h : Sound a) (steps : List World.Step) :
    Sound (a.after steps) := by
  induction steps using List.reverseRecOn with
  | nil => exact h
  | append_singleton steps s ih =>
      rw [Account.after, List.foldl_append]
      exact ih.step s

/-- An account in order: every task that was started is over or parked, once; every parked
task waits at its gate or for the end of a pause; the gates are those of the parked tasks and
no two are the same; and no call was released twice. -/
structure InOrder (a : Account) : Prop where
  tasks : a.started.Perm (a.finished.map (·.1) ++ a.world.parked.map (·.task))
  waits : ∀ x ∈ a.world.parked, a.world.transport.Waits x.hold
  keys : (a.world.parked.filterMap (·.hold.key?)).Perm a.world.transport.gates
  distinct : a.world.transport.gates.Nodup
  once : a.released.Nodup

theorem Sound.inOrder {a : Account} (h : Sound a) : InOrder a where
  tasks := h.tasks
  waits x hx := h.guarded.waits x.hold (List.mem_map_of_mem hx)
  keys := by
    have hkeys := h.guarded.keys
    rwa [World.holds, List.filterMap_map] at hkeys
  distinct := h.guarded.distinct
  once := h.once

/-- Gates and pauses lose and double nothing.  Whatever is done in a world over the service
in memory, its account is in order after every step; a call can be released exactly if it is
parked at its gate; and the next step, whatever it is, lets no call past that a pause or a
gate holds. -/
theorem gates_and_pauses_lose_nothing (samples : List (String × String)) (stores sessions : Nat)
    (steps : List World.Step) :
    let a := (fresh samples stores sessions).after steps
    a.InOrder ∧
      (∀ e index, (a.world.control (.release e index)).2 = .released true ↔
        ∃ x ∈ a.world.parked, x.hold.wait = .gate e index) ∧
      ∀ s, World.LetsNonePast a.world s (a.world.perform s) := by
  intro a
  have sound : Sound a := (sound_fresh samples stores sessions).after steps
  refine ⟨sound.inOrder, fun e index => ?_, a.world.letsNonePast⟩
  rw [World.released_iff, sound.guarded.key_mem_iff]
  simp [World.holds]

-- The second of two calls to a gated endpoint is released while the endpoint is paused.
example :
    let a := (fresh [] 0 0).after [.control (.gate .hello), .act 0 (.bare Request.hello.call .body),
      .act 1 (.bare Request.hello.call .body), .control (.pause .hello),
      .control (.release .hello 1)]
    a.world.parked.map (fun x => (x.task, x.hold.wait)) = [(0, .gate .hello 0), (1, .pause)] ∧
      a.world.transport.gates = [(.hello, 0)] ∧ a.released = [(.hello, 1)] := by
  cbv

end Account

end CodeShelf
