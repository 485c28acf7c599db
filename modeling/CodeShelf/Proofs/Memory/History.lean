import CodeShelf.Proofs.World.Gates

/-!
# Histories of the service in memory

Samples are stored from outside and by calls, and removed from outside.  Calls come in, are
held, go on and are refused in any order.  Whatever the order, samples get the numbers one, two,
three and so on as their ids, a call that is refused leaves the data alone, and the log has
every call that went to an endpoint.
-/

namespace CodeShelf

def Call.Creates (call : Call) : Prop :=
  call.method = .post ∧ call.path = Path.samples

instance (call : Call) : Decidable call.Creates :=
  inferInstanceAs (Decidable (_ ∧ _))

namespace Memory

/-! ## Where calls go -/

/-- Which endpoint a call goes to.  A content has one segment below the path of contents that
is no other path of the service. -/
inductive GoesTo : Call → Endpoint → Prop
  | listing (params : List (String × String)) : GoesTo (.get Path.samples params) .listSamples
  | idByName (params : List (String × String)) : GoesTo (.get Path.idByName params) .idByName
  | hello (params : List (String × String)) : GoesTo (.get Path.hello params) .hello
  | content {path segment : String} (params : List (String × String))
      (below : path = Path.contentStart ++ segment) (named : segment ≠ "")
      (single : '/' ∉ segment.toList)
      (other : path ≠ Path.samples ∧ path ≠ Path.idByName ∧ path ≠ Path.hello) :
      GoesTo (.get path params) .contentById
  | create (body : Json) : GoesTo (.post Path.samples body) .createSample
  | compile (body : Json) : GoesTo (.post Path.compile body) .compile

theorem contentSegment?_eq_some_iff {path segment : String} :
    contentSegment? path = some segment ↔
      path = Path.contentStart ++ segment ∧ segment ≠ "" ∧ '/' ∉ segment.toList := by
  have hempty : segment ≠ "" ↔ segment.toList ≠ [] := by
    rw [ne_eq, ne_eq, ← String.toList_eq_nil_iff]
  constructor
  · intro h
    simp only [contentSegment?] at h
    split_ifs at h with hstart hsegment
    obtain ⟨rest, hrest⟩ := List.isPrefixOf_iff_prefix.mp hstart
    rw [← hrest, List.drop_left] at h hsegment
    cases h
    simp only [Bool.or_eq_true, List.isEmpty_iff, List.contains_iff_mem, not_or] at hsegment
    rw [hempty, String.toList_ofList]
    refine ⟨?_, hsegment⟩
    rw [← String.toList_inj, ← hrest, String.toList_append, String.toList_ofList]
  · rintro ⟨rfl, named, single⟩
    rw [contentSegment?, String.toList_append, if_pos (by simp), List.drop_left, if_neg,
      String.ofList_toList]
    simpa using ⟨named, single⟩

theorem goesTo_iff {call : Call} {e : Endpoint} :
    GoesTo call e ↔ ∃ q, route call = some q ∧ q.endpoint = e := by
  constructor
  · intro h
    cases h with
    | @content path segment params below named single other =>
        obtain ⟨samples, idByName, hello⟩ := other
        refine ⟨.content segment, ?_, rfl⟩
        rw [route, if_neg samples, if_neg idByName, if_neg hello,
          contentSegment?_eq_some_iff.mpr ⟨below, named, single⟩, Option.map_some]
    | _ => exact ⟨_, rfl, rfl⟩
  · rintro ⟨q, hq, rfl⟩
    cases call with
    | get path params =>
        simp only [route] at hq
        split_ifs at hq with samples idByName hello
        · cases hq
          exact samples ▸ .listing params
        · cases hq
          exact idByName ▸ .idByName params
        · cases hq
          exact hello ▸ .hello params
        · obtain ⟨segment, hsegment, rfl⟩ := Option.map_eq_some_iff.mp hq
          obtain ⟨below, named, single⟩ := contentSegment?_eq_some_iff.mp hsegment
          exact .content params below named single ⟨samples, idByName, hello⟩
    | post path body =>
        simp only [route] at hq
        split_ifs at hq with samples compile
        · cases hq
          exact samples ▸ .create body
        · cases hq
          exact compile ▸ .compile body

theorem GoesTo.creates_iff {call : Call} {e : Endpoint} (h : GoesTo call e) :
    call.Creates ↔ e = .createSample := by
  have hcompile : Path.compile ≠ Path.samples := by decide
  cases h <;> simp [Call.Creates, Call.method, Call.path, hcompile]

inductive Logs : List Call → List LoggedCall → Prop
  | nil : Logs [] []
  | entry {calls : List Call} {log : List LoggedCall} {call : Call} {e : Endpoint}
      (before : Logs calls log) (goes : GoesTo call e) :
      Logs (calls ++ [call]) (log ++ [⟨e, call.method, call.path⟩])
  | none {calls : List Call} {log : List LoggedCall} {call : Call}
      (before : Logs calls log) (unknown : ∀ e, ¬ GoesTo call e) : Logs (calls ++ [call]) log

theorem Logs.receive {calls : List Call} {m : Memory} (h : Logs calls m.calls) (call : Call) :
    Logs (calls ++ [call]) (m.receive call).1.calls := by
  simp only [Memory.receive]
  split
  · next hroute =>
      refine .none h fun e hgoes => ?_
      obtain ⟨q, hq, -⟩ := goesTo_iff.mp hgoes
      cases hroute.symm.trans hq
  · next q hq =>
      have hentry := h.entry (goesTo_iff.mpr ⟨q, hq, rfl⟩)
      split
      · exact hentry
      · rwa [(goesOn q _).calls]

/-! ## What a call does to the data -/

structure SameData (m m' : Memory) : Prop where
  samples : m'.samples = m.samples
  lastId : m'.lastId = m.lastId
  outputs : m'.outputs = m.outputs

theorem SameData.refl (m : Memory) : SameData m m :=
  ⟨rfl, rfl, rfl⟩

structure Stores (name code : String) (m m' : Memory) : Prop where
  samples : m'.samples = m.samples ++ [⟨.ofNat (m.lastId + 1), name, code⟩]
  lastId : m'.lastId = m.lastId + 1
  outputs : m'.outputs = m.outputs

theorem stores_insert (name code : String) (m : Memory) :
    Stores name code m (m.insert name code).1 :=
  ⟨rfl, rfl, rfl⟩

/-- What can become of a call when it comes in or goes on: only a call that asks to store a
sample does so, and then it is answered with that sample. -/
inductive Serves (call : Call) (m m' : Memory) : Progress HeldCall → Prop
  | held (hold : HeldCall) (data : SameData m m') (asks : route call = some hold.question) :
      Serves call m m' (.held hold)
  | refused (e : CallError) (data : SameData m m') : Serves call m m' (.answered (.error e))
  | told (body : Json) (data : SameData m m') (other : ¬ call.Creates) :
      Serves call m m' (.answered (.ok body))
  | stored (name code : String) (creates : call.Creates) (data : Stores name code m m') :
      Serves call m m' (.answered (.ok (Sample.mk (.ofNat (m.lastId + 1)) name code).toJson))

variable {call : Call} {q : Question} {m m' : Memory}

theorem serves_answer (asks : route call = some q) (m : Memory) :
    Serves call m (m.answer q).1 (.answered (m.answer q).2) := by
  have hcreates := (goesTo_iff.mpr ⟨q, asks, rfl⟩).creates_iff
  have same := SameData.refl m
  have told : ∀ body, q.endpoint ≠ .createSample → Serves call m m (.answered (.ok body)) :=
    fun body other => .told body same fun creates => other (hcreates.mp creates)
  cases q with
  | listing => exact told _ (by simp [Question.endpoint])
  | idOf name =>
      simp only [answer]
      split
      · exact told _ (by simp [Question.endpoint])
      · exact .refused _ same
  | content segment =>
      simp only [answer]
      split
      · exact .refused _ same
      · split
        · exact told _ (by simp [Question.endpoint])
        · exact .refused _ same
  | create body =>
      simp only [answer]
      split
      · next name code _ _ => exact .stored name code (hcreates.mpr rfl) ⟨rfl, rfl, rfl⟩
      · exact .refused _ same
  | compile body =>
      simp only [answer]
      split
      · exact .refused _ same
      · split
        · exact told _ (by simp [Question.endpoint])
        · exact .refused _ same
  | hello => exact told _ (by simp [Question.endpoint])

theorem serves_passGate (asks : route call = some q) (m : Memory) :
    Serves call m (m.passGate q).1 (m.passGate q).2 := by
  simp only [passGate]
  split
  · exact .held _ (.refl m) asks
  · split
    · exact .refused _ (.refl m)
    · exact serves_answer asks m

theorem Serves.of_logged {log : List LoggedCall} {progress : Progress HeldCall}
    (h : Serves call { m with calls := log } m' progress) : Serves call m m' progress := by
  cases h with
  | held hold data asks => exact .held hold ⟨data.samples, data.lastId, data.outputs⟩ asks
  | refused e data => exact .refused e ⟨data.samples, data.lastId, data.outputs⟩
  | told body data other => exact .told body ⟨data.samples, data.lastId, data.outputs⟩ other
  | stored name code creates data =>
      exact .stored name code creates ⟨data.samples, data.lastId, data.outputs⟩

theorem serves_receive (call : Call) (m : Memory) :
    Serves call m (m.receive call).1 (m.receive call).2 := by
  simp only [receive]
  split
  · exact .refused _ (.refl m)
  · next q hq =>
      split
      · exact .held _ ⟨rfl, rfl, rfl⟩ hq
      · exact (serves_passGate hq _).of_logged

theorem Serves.asks {hold : HeldCall} (h : Serves call m m' (.held hold)) :
    route call = some hold.question := by
  cases h with
  | held hold data asks => exact asks

theorem Serves.sameData_of_held {hold : HeldCall} (h : Serves call m m' (.held hold)) :
    SameData m m' := by
  cases h with
  | held hold data asks => exact data

theorem Serves.sameData_of_error {e : CallError} (h : Serves call m m' (.answered (.error e))) :
    SameData m m' := by
  cases h with
  | refused e data => exact data

theorem Serves.sameData_of_get {progress : Progress HeldCall} (h : Serves call m m' progress)
    (get : call.method = .get) : SameData m m' := by
  cases h with
  | held hold data asks => exact data
  | refused e data => exact data
  | told body data other => exact data
  | stored name code creates data => cases get.symm.trans creates.1

/-! ## Ids -/

structure Numbered (given : List (Option SampleId)) (m : Memory) : Prop where
  given_eq : given = (List.range m.lastId).map fun i => some (SampleId.ofNat (i + 1))
  sublist : (m.samples.map fun s => some s.id).Sublist given

namespace Numbered

variable {given : List (Option SampleId)}

theorem of_eq (h : Numbered given m) (samples : m'.samples = m.samples)
    (lastId : m'.lastId = m.lastId) : Numbered given m' := by
  refine ⟨?_, ?_⟩
  · rw [lastId]
    exact h.given_eq
  · rw [samples]
    exact h.sublist

theorem of_stores (h : Numbered given m) {name code : String} (stores : Stores name code m m') :
    Numbered (given ++ [some (.ofNat (m.lastId + 1))]) m' := by
  refine ⟨?_, ?_⟩
  · rw [stores.lastId, List.range_succ, List.map_append, ← h.given_eq]
    rfl
  · rw [stores.samples, List.map_append]
    exact h.sublist.append_right _

theorem of_remove (h : Numbered given m) (id : SampleId) : Numbered given (m.remove id) :=
  ⟨h.given_eq, (List.filter_sublist.map _).trans h.sublist⟩

theorem length_given (h : Numbered given m) : given.length = m.lastId := by
  rw [h.given_eq, List.length_map, List.length_range]

theorem eq_of_getElem? (h : Numbered given m) {i : Nat} {id : Option SampleId}
    (hid : given[i]? = some id) : id = some (.ofNat (i + 1)) := by
  rw [h.given_eq] at hid
  obtain ⟨hlt, hget⟩ := List.getElem?_eq_some_iff.mp hid
  simpa using hget.symm

theorem nodup_given (h : Numbered given m) : given.Nodup := by
  rw [h.given_eq]
  refine List.Nodup.map ?_ List.nodup_range
  intro i j hij
  simpa using SampleId.ofNat_injective (Option.some.inj hij)

theorem exists_increasing (h : Numbered given m) :
    ∃ ns : List Nat, m.samples.map (·.id) = ns.map .ofNat ∧ ns.Pairwise (· < ·) ∧
      ∀ n ∈ ns, 0 < n ∧ n ≤ given.length := by
  have hsublist := h.sublist
  rw [h.given_eq, List.sublist_map_iff] at hsublist
  obtain ⟨left, hleft, hids⟩ := hsublist
  refine ⟨left.map (· + 1), ?_, ?_, ?_⟩
  · have hsome : (m.samples.map (·.id)).map some = ((left.map (· + 1)).map .ofNat).map some := by
      rw [List.map_map, List.map_map, List.map_map]
      exact hids
    exact List.map_injective_iff.mpr (fun _ _ => Option.some.inj) hsome
  · rw [List.pairwise_map]
    exact (List.pairwise_lt_range.sublist hleft).imp fun hlt => Nat.succ_lt_succ hlt
  · intro n hn
    obtain ⟨i, hi, rfl⟩ := List.mem_map.mp hn
    rw [h.length_given]
    exact ⟨Nat.succ_pos i, List.mem_range.mp (hleft.subset hi)⟩

end Numbered

end Memory

def Control.given (m : Memory) : Control → List (Option SampleId)
  | .insert name code => [some (m.insert name code).2]
  | _ => []

def Call.given (call : Call) : Progress HeldCall → List (Option SampleId)
  | .answered (.ok body) =>
      if call.Creates then [(body.stringMember? "id").map SampleId.mk] else []
  | _ => []

namespace Memory

theorem Numbered.control {given : List (Option SampleId)} {m : Memory} (h : Numbered given m)
    (c : Control) : Numbered (given ++ c.given m) (c.effect m) := by
  cases c with
  | insert name code => exact h.of_stores (stores_insert name code m)
  | remove id =>
      simp only [Control.given, List.append_nil]
      exact h.of_remove id
  | release e index =>
      simp only [Control.given, List.append_nil]
      simp only [Control.effect, release]
      split <;> exact h.of_eq rfl rfl
  | _ =>
      simp only [Control.given, List.append_nil]
      exact h.of_eq rfl rfl

theorem Serves.data_cases {m m' : Memory} {call : Call} {progress : Progress HeldCall}
    (h : Serves call m m' progress) :
    SameData m m' ∧ call.given progress = [] ∨
      ∃ name code, Stores name code m m' ∧
        call.given progress = [some (.ofNat (m.lastId + 1))] := by
  cases h with
  | held hold data asks => exact .inl ⟨data, rfl⟩
  | refused e data => exact .inl ⟨data, rfl⟩
  | told body data other => exact .inl ⟨data, if_neg other⟩
  | stored name code creates data => exact .inr ⟨name, code, data, if_pos creates⟩

theorem Numbered.serves {given : List (Option SampleId)} {m m' : Memory} {call : Call}
    {progress : Progress HeldCall} (h : Numbered given m) (serves : Serves call m m' progress) :
    Numbered (given ++ call.given progress) m' := by
  rcases serves.data_cases with ⟨data, hgiven⟩ | ⟨name, code, data, hgiven⟩
  · rw [hgiven, List.append_nil]
    exact h.of_eq data.samples data.lastId
  · rw [hgiven]
    exact h.of_stores data

/-! ## Histories -/

inductive Deed
  | control (c : Control)
  | call (call : Call)
  | goOn (number : Nat)

/-- The service with what has come of it: the calls that came in, each with how far it got, and
the ids that were given for samples, each as it was told. -/
structure History where
  memory : Memory
  calls : List (Call × Progress HeldCall) := []
  given : List (Option SampleId) := []

namespace History

def fresh (samples : List (String × String)) : History where
  memory := withSamples samples
  given := (withSamples samples).samples.map fun s => some s.id

def step (h : History) : Deed → History
  | .control c =>
      { h with memory := c.effect h.memory, given := h.given ++ c.given h.memory }
  | .call call =>
      let taken := h.memory.receive call
      ⟨taken.1, h.calls ++ [(call, taken.2)], h.given ++ call.given taken.2⟩
  | .goOn number =>
      match h.calls[number]? with
      | some (call, .held hold) =>
          let taken := h.memory.passGate hold.question
          ⟨taken.1, h.calls.set number (call, taken.2), h.given ++ call.given taken.2⟩
      | _ => h

def after (deeds : List Deed) (h : History) : History :=
  deeds.foldl step h

def number? (h : History) : Deed → Option Nat
  | .control _ => none
  | .call _ => some h.calls.length
  | .goOn number => some number

inductive Steps (h h' : History) (d : Deed) : Prop
  | nothing (same : h' = h)
  | control (c : Control) (is : d = .control c) (memory : h'.memory = c.effect h.memory)
      (calls : h'.calls = h.calls) (given : h'.given = h.given ++ c.given h.memory)
  | comes (call : Call) (progress : Progress HeldCall) (is : d = .call call)
      (serves : Serves call h.memory h'.memory progress)
      (log : h'.memory.calls = (h.memory.receive call).1.calls)
      (calls : h'.calls = h.calls ++ [(call, progress)])
      (given : h'.given = h.given ++ call.given progress)
  | goesOn (number : Nat) (call : Call) (hold : HeldCall) (progress : Progress HeldCall)
      (is : d = .goOn number) (held : h.calls[number]? = some (call, .held hold))
      (serves : Serves call h.memory h'.memory progress) (log : h'.memory.calls = h.memory.calls)
      (calls : h'.calls = h.calls.set number (call, progress))
      (given : h'.given = h.given ++ call.given progress)

structure Sound (h : History) : Prop where
  numbered : Numbered h.given h.memory
  logs : Logs (h.calls.map (·.1)) h.memory.calls
  asks : ∀ call hold, (call, .held hold) ∈ h.calls → route call = some hold.question

theorem Sound.steps {h : History} (sound : Sound h) (d : Deed) : Steps h (h.step d) d := by
  cases d with
  | control c => exact .control c rfl rfl rfl rfl
  | call call => exact .comes call _ rfl (serves_receive call h.memory) rfl rfl rfl
  | goOn number =>
      simp only [step]
      split
      · next call hold held =>
          have asks := sound.asks call hold (List.mem_of_getElem? held)
          exact .goesOn number call hold _ rfl held (serves_passGate asks h.memory)
            (goesOn hold.question h.memory).calls rfl rfl
      · exact .nothing rfl

theorem Sound.step {h : History} (sound : Sound h) (d : Deed) : Sound (h.step d) := by
  cases sound.steps d with
  | nothing same => rwa [same]
  | control c is memory calls given =>
      refine ⟨?_, ?_, ?_⟩
      · rw [given, memory]
        exact sound.numbered.control c
      · rw [calls, memory, Control.calls_effect]
        exact sound.logs
      · rw [calls]
        exact sound.asks
  | comes call progress is serves log calls given =>
      refine ⟨?_, ?_, ?_⟩
      · rw [given]
        exact sound.numbered.serves serves
      · rw [calls, log, List.map_append]
        exact sound.logs.receive call
      · intro other hold hmem
        rw [calls] at hmem
        rcases List.mem_append.mp hmem with hold' | hnew
        · exact sound.asks other hold hold'
        · cases List.mem_singleton.mp hnew
          exact serves.asks
  | goesOn number call hold progress is held serves log calls given =>
      refine ⟨?_, ?_, ?_⟩
      · rw [given]
        exact sound.numbered.serves serves
      · have hcalls : (h.step d).calls.map (·.1) = h.calls.map (·.1) := by
          have hcall : (h.calls.map (·.1))[number]? = some call := by simp [held]
          obtain ⟨hlt, hget⟩ := List.getElem?_eq_some_iff.mp hcall
          rw [calls, List.map_set, ← hget, List.set_getElem_self]
        rw [hcalls, log]
        exact sound.logs
      · intro other hold' hmem
        rw [calls] at hmem
        rcases List.mem_or_eq_of_mem_set hmem with hold'' | hnew
        · exact sound.asks other hold' hold''
        · cases hnew
          exact serves.asks

theorem numbered_fresh (samples : List (String × String)) :
    Numbered (fresh samples).given (fresh samples).memory := by
  induction samples using List.reverseRecOn with
  | nil => exact ⟨rfl, .slnil⟩
  | append_singleton samples s ih =>
      -- One sample more is one insertion more.
      have hmemory : (fresh (samples ++ [s])).memory =
          ((fresh samples).memory.insert s.1 s.2).1 := by
        rw [fresh, withSamples, List.foldl_append]
        rfl
      have hgiven : (fresh (samples ++ [s])).given =
          (fresh samples).given ++ [some (.ofNat ((fresh samples).memory.lastId + 1))] := by
        change (fresh (samples ++ [s])).memory.samples.map _ = _
        rw [hmemory, insert, List.map_append]
        rfl
      rw [hgiven, hmemory]
      exact ih.of_stores (stores_insert s.1 s.2 _)

theorem sound_fresh (samples : List (String × String)) : Sound (fresh samples) := by
  obtain ⟨stored, lastId, hmemory⟩ := exists_withSamples_eq samples
  refine ⟨numbered_fresh samples, ?_, by simp [fresh]⟩
  rw [fresh, hmemory]
  exact .nil

theorem after_append (deeds more : List Deed) (h : History) :
    h.after (deeds ++ more) = (h.after deeds).after more :=
  List.foldl_append

theorem Sound.after {h : History} (sound : Sound h) (deeds : List Deed) :
    Sound (h.after deeds) := by
  induction deeds generalizing h with
  | nil => exact sound
  | cons d rest ih => exact ih (sound.step d)

/-! ## How far a call gets -/

theorem Sound.calls_step {h : History} (sound : Sound h) (d : Deed) {number : Nat} {call : Call}
    {progress : Progress HeldCall} (before : h.calls[number]? = some (call, progress)) :
    ∃ further, (h.step d).calls[number]? = some (call, further) ∧
      ∀ reply, progress = .answered reply → further = .answered reply := by
  have stays : (h.step d).calls[number]? = some (call, progress) →
      ∃ further, (h.step d).calls[number]? = some (call, further) ∧
        ∀ reply, progress = .answered reply → further = .answered reply :=
    fun same => ⟨progress, same, fun _ h => h⟩
  cases sound.steps d with
  | nothing same => exact stays (by rw [same, before])
  | control c is memory calls given => exact stays (by rw [calls, before])
  | comes new _ is serves log calls given =>
      have hlt := (List.getElem?_eq_some_iff.mp before).1
      exact stays (by rw [calls, List.getElem?_append_left hlt, before])
  | goesOn other _ hold further is held serves log calls given =>
      by_cases hnumber : other = number
      · subst hnumber
        cases held.symm.trans before
        refine ⟨further, ?_, fun reply h => by cases h⟩
        rw [calls, List.getElem?_set_self (List.getElem?_eq_some_iff.mp before).1]
      · exact stays (by rw [calls, List.getElem?_set_ne hnumber, before])

theorem Sound.calls_after {h : History} (sound : Sound h) (deeds : List Deed) {number : Nat}
    {call : Call} {progress : Progress HeldCall}
    (before : h.calls[number]? = some (call, progress)) :
    ∃ further, (h.after deeds).calls[number]? = some (call, further) ∧
      ∀ reply, progress = .answered reply → further = .answered reply := by
  induction deeds generalizing h progress with
  | nil => exact ⟨progress, before, fun _ h => h⟩
  | cons d rest ih =>
      obtain ⟨next, hnext, answered⟩ := sound.calls_step d before
      obtain ⟨further, hfurther, kept⟩ := ih (sound.step d) hnext
      exact ⟨further, hfurther, fun reply h => kept reply (answered reply h)⟩

theorem Sound.serves_of_number {h : History} (sound : Sound h) {d : Deed} {number : Nat}
    (about : h.number? d = some number) :
    (h.step d).memory = h.memory ∨
      ∃ call progress, (h.step d).calls[number]? = some (call, progress) ∧
        Serves call h.memory (h.step d).memory progress := by
  cases sound.steps d with
  | nothing same => exact .inl (by rw [same])
  | control c is memory calls given =>
      subst is
      cases about
  | comes call progress is serves log calls given =>
      subst is
      cases about
      exact .inr ⟨call, progress, by rw [calls, List.getElem?_concat_length], serves⟩
  | goesOn other call hold progress is held serves log calls given =>
      subst is
      cases about
      refine .inr ⟨call, progress, ?_, serves⟩
      rw [calls, List.getElem?_set_self (List.getElem?_eq_some_iff.mp held).1]

theorem Sound.sameData_of_harmless {h : History} (sound : Sound h) {d : Deed} (later : List Deed)
    {number : Nat} (about : h.number? d = some number) {call : Call}
    {progress : Progress HeldCall}
    (final : ((h.step d).after later).calls[number]? = some (call, progress))
    (harmless : call.method = .get ∨ ∃ e, progress = .answered (.error e)) :
    SameData h.memory (h.step d).memory := by
  rcases sound.serves_of_number about with same | ⟨call', now, hnow, serves⟩
  · rw [same]
    exact .refl _
  · obtain ⟨further, hfurther, answered⟩ := (sound.step d).calls_after later hnow
    cases hfurther.symm.trans final
    -- A call that stored a sample was answered with it, and answers stay.
    rcases harmless with get | ⟨e, rfl⟩
    · exact serves.sameData_of_get get
    · cases now with
      | held hold => exact serves.sameData_of_held
      | answered reply =>
          cases answered reply rfl
          exact serves.sameData_of_error

theorem Sound.stores_of_given {h : History} (sound : Sound h) (d : Deed) :
    (h.step d).given = h.given ∨ ∃ name code, Stores name code h.memory (h.step d).memory := by
  have of_serves : ∀ {call progress}, Serves call h.memory (h.step d).memory progress →
      (h.step d).given = h.given ++ call.given progress →
      (h.step d).given = h.given ∨
        ∃ name code, Stores name code h.memory (h.step d).memory := by
    intro call progress serves given
    rcases serves.data_cases with ⟨-, none⟩ | ⟨name, code, data, -⟩
    · exact .inl (by rw [given, none, List.append_nil])
    · exact .inr ⟨name, code, data⟩
  cases sound.steps d with
  | nothing same => exact .inl (by rw [same])
  | control c is memory calls given =>
      cases c with
      | insert name code => exact .inr ⟨name, code, memory ▸ stores_insert name code h.memory⟩
      | _ => exact .inl (given.trans (List.append_nil _))
  | comes call progress is serves log calls given => exact of_serves serves given
  | goesOn number call hold progress is held serves log calls given =>
      exact of_serves serves given

end History

/-- Whatever happens to the service, and in whichever order calls are held, go on and are
refused: the i-th sample to be stored gets the id i, so that no id is given twice and the ids of
the samples that are left increase; whoever is told an id has a sample stored under it.  The log
has one entry for every call that came to an endpoint and none for any other.  A call that is
refused in the end, and every call that only asks, leaves samples, ids and outputs alone when it
comes in and whenever it goes on. -/
theorem ids_in_order_and_refusals_harmless (samples : List (String × String))
    (deeds : List Deed) :
    let h := (History.fresh samples).after deeds
    (∀ (i : Nat) (id : Option SampleId), h.given[i]? = some id → id = some (.ofNat (i + 1))) ∧
      h.given.Nodup ∧ h.given.length = h.memory.lastId ∧
      (∃ ns : List Nat, h.memory.samples.map (·.id) = ns.map .ofNat ∧ ns.Pairwise (· < ·) ∧
        ∀ n ∈ ns, 0 < n ∧ n ≤ h.given.length) ∧
      Logs (h.calls.map (·.1)) h.memory.calls ∧
      ∀ before d later, deeds = before ++ d :: later →
        let now := (History.fresh samples).after before
        ((now.step d).given = now.given ∨
          ∃ name code, Stores name code now.memory (now.step d).memory) ∧
        ∀ number call progress, now.number? d = some number →
          h.calls[number]? = some (call, progress) →
          (call.method = .get ∨ ∃ e, progress = .answered (.error e)) →
          SameData now.memory (now.step d).memory := by
  intro h
  have start := History.sound_fresh samples
  have sound : h.Sound := start.after deeds
  refine ⟨fun i id => sound.numbered.eq_of_getElem?, sound.numbered.nodup_given,
    sound.numbered.length_given, sound.numbered.exists_increasing, sound.logs, ?_⟩
  · rintro before d later hdeeds now
    have hnow : now.Sound := start.after before
    have hlater : h = (now.step d).after later := by
      change (History.fresh samples).after deeds = _
      rw [hdeeds, History.after_append]
      rfl
    refine ⟨hnow.stores_of_given d, ?_⟩
    intro number call progress about final harmless
    rw [hlater] at final
    exact hnow.sameData_of_harmless later about final harmless

/-- Two creations held at their gates, a sample stored and removed before they go on, the second
one refused for its body, and a call that goes nowhere. -/
def mixedDeeds : List Deed :=
  [.control (.gate .createSample), .call (Request.create ⟨"b", "2"⟩).call,
    .call (.post Path.samples (.obj [("name", .str "c"), ("code", .null)])),
    .control (.insert "d" "4"), .control (.remove ⟨"2"⟩), .goOn 1, .goOn 0,
    .call (.get "/elsewhere" [])]

theorem ids_in_order_and_refusals_harmless_mixed :
    let h := (History.fresh [("a", "1")]).after mixedDeeds
    h.given = [some ⟨"1"⟩, some ⟨"2"⟩, some ⟨"3"⟩] ∧
      h.memory.samples.map (·.id) = [⟨"1"⟩, ⟨"3"⟩] ∧
      h.memory.calls.map (·.endpoint) = [.createSample, .createSample] ∧
      SameData ((History.fresh [("a", "1")]).after (mixedDeeds.take 5)).memory
        ((History.fresh [("a", "1")]).after (mixedDeeds.take 6)).memory := by
  refine ⟨by decide +kernel, by decide +kernel, by decide +kernel, ?_⟩
  obtain ⟨-, -, -, -, -, hdeeds⟩ := ids_in_order_and_refusals_harmless [("a", "1")] mixedDeeds
  obtain ⟨-, harmless⟩ := hdeeds (mixedDeeds.take 5) (.goOn 1) (mixedDeeds.drop 6) rfl
  exact harmless 1 _ _ rfl rfl (.inr ⟨_, rfl⟩)

end Memory

end CodeShelf
