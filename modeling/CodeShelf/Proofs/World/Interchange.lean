import CodeShelf.Proofs.Transport.Http
import CodeShelf.Proofs.World.Simulation
import Mathlib.Data.List.Forall2

/-!
# HTTP in the place of memory

The service in memory can be put at the other end of an HTTP connection, and the stores
and sessions do not notice.  A run over it, as long as nothing gates or pauses its
endpoints, makes a transcript of calls and answers.  Over HTTP, where the peer answers
every call of the transcript with the compact text of its value or with the status of its
error, the same is seen of every step.
-/

namespace CodeShelf

/-! ## What the service in memory answers -/

theorem Sample.legible_toJson (depth : Nat) (s : Sample) : s.toJson.Legible (depth + 1) := by
  refine .obj ?_ (by simp)
  simp only [List.forall_mem_cons]
  exact ⟨.str _ _, .str _ _, .str _ _, by simp⟩

/-- An answer that HTTP can convey: a value that is read back, or an error whose status is
no success. -/
def Reply.Conveyable : Reply → Prop
  | .ok v => v.Legible Json.maxDepth
  | .error e => ∃ status, e.status = some status ∧ Http.isSuccess status = false

namespace Memory

theorem legible_keyedListing {m : Memory} (h : m.IdsInOrder) (depth : Nat) :
    (keyedListing m.samples).Legible (depth + 2) := by
  have hkeys : ((m.samples.map fun s => (s.id.text, s.toJson)).map (·.1)).Nodup := by
    rw [List.map_map]
    exact nodup_text_of_idsInOrder h
  rw [keyedListing, Json.ofPairs_of_nodup hkeys]
  refine .obj ?_ hkeys
  simp only [List.forall_mem_map]
  exact fun s _ => s.legible_toJson depth

theorem legible_listing {m : Memory} (h : m.IdsInOrder) : m.listing.Legible Json.maxDepth := by
  rw [listing]
  split
  · refine .arr ?_
    simp only [List.forall_mem_map]
    exact fun s _ => s.legible_toJson _
  · exact legible_keyedListing h _
  · exact Json.legible_obj_singleton _ (legible_keyedListing h _)

theorem conveyable_notFound (what : String) : (notFound what).Conveyable :=
  ⟨404, rfl, rfl⟩

theorem conveyable_answer {m : Memory} (h : m.IdsInOrder) (q : Question) :
    (m.answer q).2.Conveyable := by
  cases q with
  | listing => exact legible_listing h
  | idOf name =>
      simp only [answer]
      split
      · exact .str _ _
      · exact conveyable_notFound _
  | hello => exact Json.legible_obj_singleton _ (.str _ _)
  | content segment =>
      simp only [answer]
      split
      · exact ⟨400, rfl, rfl⟩
      · split
        · exact Sample.legible_toJson _ _
        · exact conveyable_notFound _
  | create body =>
      simp only [answer]
      split
      · exact Sample.legible_toJson _ _
      · exact ⟨400, rfl, rfl⟩
  | compile body =>
      simp only [answer]
      split
      · exact ⟨400, rfl, rfl⟩
      · split
        · exact Json.legible_obj_singleton _ (.str _ _)
        · exact ⟨500, rfl, rfl⟩

theorem frame_answer (q : Question) (m : Memory) :
    (m.answer q).1.gated = m.gated ∧ (m.answer q).1.paused = m.paused := by
  obtain ⟨samples, lastId, h⟩ := exists_answer_eq q m
  rw [h]
  exact ⟨rfl, rfl⟩

structure Open (m : Memory) : Prop where
  gated : m.gated = []
  paused : m.paused = []
  ids : m.IdsInOrder

theorem open_withSamples (samples : List (String × String)) : (withSamples samples).Open := by
  obtain ⟨stored, lastId, h⟩ := exists_withSamples_eq samples
  exact ⟨by rw [h], by rw [h], idsInOrder_withSamples samples⟩

namespace Open

variable {m : Memory}

theorem passGate (h : m.Open) (q : Question) :
    (m.passGate q).1.Open ∧ ∃ r, (m.passGate q).2 = .answered r ∧ r.Conveyable := by
  have hpaused : ¬ m.paused.contains q.endpoint = true := by simp [h.paused]
  simp only [Memory.passGate]
  rw [if_neg hpaused]
  split
  · exact ⟨h, _, rfl, 500, rfl, rfl⟩
  · refine ⟨⟨?_, ?_, (changes_answer q m).idsInOrder h.ids⟩, _, rfl, conveyable_answer h.ids q⟩
    · exact (frame_answer q m).1.trans h.gated
    · exact (frame_answer q m).2.trans h.paused

theorem receive (h : m.Open) (call : Call) :
    (m.receive call).1.Open ∧ ∃ r, (m.receive call).2 = .answered r ∧ r.Conveyable := by
  simp only [Memory.receive]
  split
  · exact ⟨h, _, rfl, conveyable_notFound _⟩
  · next q hq =>
      have hgated : ¬ m.gated.contains q.endpoint = true := by simp [h.gated]
      have hlogged : Open { m with calls := m.calls ++ [logged q.endpoint call] } :=
        ⟨h.gated, h.paused, h.ids⟩
      rw [if_neg hgated]
      exact hlogged.passGate q

theorem effect (h : m.Open) {c : Control} (ungated : ∀ e, c ≠ .gate e)
    (unpaused : ∀ e, c ≠ .pause e) : (c.effect m).Open := by
  have hids := (c.changes_effect m).idsInOrder h.ids
  cases c with
  | gate e => exact absurd rfl (ungated e)
  | pause e => exact absurd rfl (unpaused e)
  | resume e => exact ⟨h.gated, by simp [Control.effect, excluding, h.paused], hids⟩
  | release e index =>
      simp only [Control.effect, release] at hids ⊢
      split <;> exact ⟨h.gated, h.paused, h.ids⟩
  | _ => exact ⟨h.gated, h.paused, hids⟩

end Open

end Memory

/-! ## Transcripts -/

structure Exchange where
  call : Call
  reply : Reply

/-- A transport with a record of the calls that it answered at once. -/
structure Recorded (τ : Type) where
  transport : τ
  record : List Exchange := []

namespace Recorded

variable {τ ω : Type}

def exchanges (call : Call) : Progress ω → List Exchange
  | .answered reply => [⟨call, reply⟩]
  | .held _ => []

instance [Transport τ ω] : Transport (Recorded τ) ω where
  send call t :=
    let sent := Transport.send call t.transport
    (⟨sent.1, t.record ++ exchanges call sent.2⟩, sent.2)
  proceed hold t :=
    let proceeded := Transport.proceed hold t.transport
    (⟨proceeded.1, t.record⟩, proceeded.2)

end Recorded

namespace Http

/-- Whether an answer over HTTP conveys the answer of an exchange: the compact text of a
value as a success, and the status of an error with any body that can be read. -/
def Serves (x : Exchange) (r : Response) : Prop :=
  match x.reply with
  | .ok v => r = .success v
  | .error e => e.status = some r.status ∧ r.isComplete = true

instance (x : Exchange) (r : Response) : Decidable (Serves x r) :=
  match x with
  | ⟨_, .ok v⟩ => inferInstanceAs (Decidable (r = .success v))
  | ⟨_, .error e⟩ =>
      inferInstanceAs (Decidable (e.status = some r.status ∧ r.isComplete = true))

theorem Serves.alike {x : Exchange} {r : Response} (h : Serves x r)
    (conveyable : x.reply.Conveyable) : x.reply.Alike r.read := by
  obtain ⟨call, reply⟩ := x
  cases reply with
  | ok v =>
      have hsuccess : r = .success v := h
      rw [hsuccess, Response.read_success conveyable]
      exact .ok v
  | error e =>
      obtain ⟨hstatus, complete⟩ : e.status = some r.status ∧ r.isComplete = true := h
      obtain ⟨status, hstatus', hfailure⟩ := conveyable
      obtain rfl := Option.some.inj (hstatus.symm.trans hstatus')
      rw [Response.read_refusal complete hfailure]
      exact .error hstatus

end Http

namespace World

def controlRecorded (c : Control) (w : World (Recorded Memory) HeldCall) :
    Passage (Recorded Memory) HeldCall :=
  let service := w.transport
  { world := { w with transport := { service with transport := c.effect service.transport } } }

def transcript (samples : List (String × String)) (stores sessions : Nat) (steps : List Step) :
    List Exchange :=
  let w : World (Recorded Memory) HeldCall :=
    fresh { transport := .withSamples samples } stores sessions
  (w.after controlRecorded steps).transport.record

theorem control_of_idle {w : InMemory} (h : w.parked = []) (c : Control) :
    (w.control c).1 = { world := w.withMemory (c.effect w.transport) } := by
  cases c with
  | resume e => simp [control, wakeWhere, withMemory, Passage.wake, Control.effect, h]
  | release e index =>
      simp only [control, Control.effect]
      split
      · simp [wakeWhere, withMemory, Passage.wake, h]
      · rfl
  | _ => rfl

structure Records (t : Recorded Memory) (m : Memory) : Prop where
  transport : t.transport = m
  service : m.Open

theorem simulates_memory : Simulates (fun _ => True) Records := by
  refine ⟨fun _ => trivial, ?_⟩
  rintro call t m ⟨rfl, hopen⟩ -
  obtain ⟨hopen', r, hr, -⟩ := hopen.receive call
  exact ⟨⟨rfl, hopen'⟩, r, r, hr, hr, .refl r⟩

theorem matched_control_memory {w : World (Recorded Memory) HeldCall} {w' : InMemory}
    (h : Matched Records { world := w : Passage _ HeldCall } { world := w' : Passage _ HeldCall })
    (c : Control) (ungated : ∀ e, c ≠ .gate e) (unpaused : ∀ e, c ≠ .pause e) :
    Matched Records (controlRecorded c w) (w'.control c).1 := by
  obtain ⟨⟨htransport, hopen⟩, hsight, hidle⟩ := h
  rw [control_of_idle hidle]
  exact ⟨⟨congrArg c.effect htransport, hopen.effect ungated unpaused⟩, hsight, hidle⟩

structure Serving (config : Config) (responses : List Http.Response) (t : Recorded Memory)
    (l : Http.Link) : Prop where
  service : t.transport.Open
  config_eq : l.config = config
  peer_eq : l.peer = .serving (responses.drop t.record.length)

theorem simulates_http {config : Config} {exchanges : List Exchange}
    {responses : List Http.Response} (reach : ∀ x ∈ exchanges, Http.Reaches config x.call)
    (serve : List.Forall₂ Http.Serves exchanges responses) :
    Simulates (fun t => t.record <+: exchanges) (Serving config responses) := by
  refine ⟨fun h => (List.prefix_append _ _).trans h, ?_⟩
  rintro call t l ⟨hopen, hconfig, hpeer⟩ hbound
  obtain ⟨hopen', r, hr, hconveyable⟩ := hopen.receive call
  -- The next exchange of the transcript is this one, so the next answer conveys it.
  have hrecord : (Transport.send call t).1.record = t.record ++ [⟨call, r⟩] := by
    change t.record ++ Recorded.exchanges call (t.transport.receive call).2 = _
    rw [hr]
    rfl
  rw [hrecord] at hbound
  obtain ⟨rest, hrest⟩ := hbound
  have hdrop : exchanges.drop t.record.length = ⟨call, r⟩ :: rest := by
    rw [← hrest, List.append_assoc, List.drop_left, List.singleton_append]
  have hserve := List.forall₂_drop t.record.length serve
  rw [hdrop, List.forall₂_cons_left_iff] at hserve
  obtain ⟨response, responses', hserves, -, hnext⟩ := hserve
  have hreach : Http.Reaches l.config call := by
    rw [hconfig]
    exact reach ⟨call, r⟩ (by simp [← hrest])
  rw [hnext] at hpeer
  obtain ⟨hread, hconfig', hpeer'⟩ := Http.Link.send_of_reaches hreach hpeer
  refine ⟨⟨hopen', hconfig'.trans hconfig, hpeer'.trans ?_⟩, r, response.read, hr,
    congrArg Progress.answered hread, hserves.alike hconveyable⟩
  rw [hrecord, List.length_append, List.length_singleton, ← List.tail_drop, hnext,
    List.tail_cons]

theorem matched_control_http {config : Config} {responses : List Http.Response}
    {w : World (Recorded Memory) HeldCall} {w' : World Http.Link Empty}
    (h : Matched (Serving config responses) { world := w : Passage _ HeldCall }
      { world := w' : Passage _ Empty })
    (c : Control) (ungated : ∀ e, c ≠ .gate e) (unpaused : ∀ e, c ≠ .pause e) :
    Matched (Serving config responses) (controlRecorded c w) { world := w' : Passage _ Empty } := by
  obtain ⟨⟨hopen, hconfig, hpeer⟩, hsight, hidle⟩ := h
  exact ⟨⟨hopen.effect ungated unpaused, hconfig, hpeer⟩, hsight, hidle⟩

/-! ## Runs -/

def sightsInMemory (samples : List (String × String)) (stores sessions : Nat)
    (steps : List Step) : List Sight :=
  (fresh (Memory.withSamples samples) stores sessions).sights (fun c w => (w.control c).1) steps

def sightsOverHttp (config : Config) (responses : List Http.Response) (stores sessions : Nat)
    (steps : List Step) : List Sight :=
  (fresh { config := config, peer := .serving responses : Http.Link } stores sessions).sights
    (fun _ w => { world := w }) steps

/-- Whatever is done to stores and sessions over the service in memory, as long as nothing
gates or pauses it, the same is seen over HTTP where the peer serves the transcript. -/
theorem http_replays_memory (samples : List (String × String)) (stores sessions : Nat)
    (steps : List Step) (ungated : ∀ e, Step.control (.gate e) ∉ steps)
    (unpaused : ∀ e, Step.control (.pause e) ∉ steps) (config : Config)
    (responses : List Http.Response)
    (reach : ∀ x ∈ transcript samples stores sessions steps, Http.Reaches config x.call)
    (serve : List.Forall₂ Http.Serves (transcript samples stores sessions steps) responses) :
    sightsInMemory samples stores sessions steps =
      sightsOverHttp config responses stores sessions steps := by
  have hopen := Memory.open_withSamples samples
  have hungated : ∀ c, Step.control c ∈ steps → ∀ e, c ≠ .gate e := by
    rintro c hc e rfl
    exact ungated e hc
  have hunpaused : ∀ c, Step.control c ∈ steps → ∀ e, c ≠ .pause e := by
    rintro c hc e rfl
    exact unpaused e hc
  have hmemory : Matched Records
      { world := fresh { transport := .withSamples samples } stores sessions : Passage _ HeldCall }
      { world := fresh (.withSamples samples) stores sessions : Passage _ HeldCall } :=
    ⟨⟨rfl, hopen⟩, rfl, rfl⟩
  have hhttp : Matched (Serving config responses)
      { world := fresh { transport := .withSamples samples } stores sessions : Passage _ HeldCall }
      { world := fresh ⟨config, .serving responses, []⟩ stores sessions : Passage _ Empty } :=
    ⟨⟨hopen, rfl, rfl⟩, rfl, rfl⟩
  -- Both runs follow the recorded one.
  calc sightsInMemory samples stores sessions steps
      = (fresh { transport := .withSamples samples } stores sessions).sights controlRecorded
          steps :=
        (simulates_memory.sights_eq (fun _ _ h => h)
          (fun c hc _ _ h => matched_control_memory h c (hungated c hc) (hunpaused c hc))
          hmemory trivial).symm
    _ = sightsOverHttp config responses stores sessions steps :=
        (simulates_http reach serve).sights_eq (fun _ _ h => h)
          (fun c hc _ _ h => matched_control_http h c (hungated c hc) (hunpaused c hc))
          hhttp (List.prefix_refl _)

def replayedSteps : List Step := [
  .control (.setOutput "print(1)" "1\n"),
  .act 0 (.store 0 .attach),
  .act 1 (.store 0 (.addSample "\"zwei\"" "x\ty")),
  .act 2 (.store 0 (.fetchContent "eins")),
  .act 3 (.store 0 (.fetchContent "drei")),
  .act 4 (.session 0 (.execute "print(1)")),
  .act 5 (.session 0 (.execute "print(2)")),
  .control (.fail .listSamples),
  .act 6 (.store 0 .fetchAll),
  .control (.recover .listSamples),
  .control (.shape .envelope),
  .act 7 (.store 0 .fetchAll)
]

def replayedResponses : List Http.Response :=
  let one : Sample := ⟨⟨"1"⟩, "eins", "print(1)"⟩
  let two : Sample := ⟨⟨"2"⟩, "\"zwei\"", "x\ty"⟩
  [ .success (.arr [one.toJson]),
    .success two.toJson,
    .success (.arr [one.toJson, two.toJson]),
    .success (.str "1"),
    .success one.toJson,
    { status := 404, body := [0xFF] },
    .success (.obj [("output", .str "1\n")]),
    { status := 500, body := [] },
    { status := 500, body := Text.Utf8.encode "down".toList },
    .success (.obj [("Data", .obj [("1", one.toJson), ("2", two.toJson)])]) ]

theorem http_replays_memory_mixed :
    (transcript [("eins", "print(1)")] 1 1 replayedSteps).length = 10 ∧
      sightsInMemory [("eins", "print(1)")] 1 1 replayedSteps =
        sightsOverHttp ⟨"http://127.0.0.1:8000"⟩ replayedResponses 1 1 replayedSteps := by
  refine ⟨by decide +kernel, ?_⟩
  exact http_replays_memory [("eins", "print(1)")] 1 1 replayedSteps (by simp [replayedSteps])
    (by simp [replayedSteps]) ⟨"http://127.0.0.1:8000"⟩ replayedResponses (by decide +kernel)
    (by decide +kernel)

end World

end CodeShelf
