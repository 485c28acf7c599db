import CodeShelf.Proofs.Traffic.Contents

/-!
# Contents by id

A request for the content of an id gets the code of the sample of exactly that id, whatever
characters the id has, and an error if there is none.  It comes to the endpoint for contents
unless the id is empty or has the path of another endpoint.  No sample ever has such an id, and
no other endpoint answers with a code.
-/

namespace CodeShelf

open Text

namespace Memory

def Reachable (m : Memory) : Prop :=
  ∃ samples stores sessions moves,
    ((Traffic.fresh samples stores sessions).after moves).memory = m

theorem Reachable.idsInOrder {m : Memory} (h : m.Reachable) : m.IdsInOrder := by
  obtain ⟨samples, stores, sessions, moves, rfl⟩ := h
  exact ((Traffic.sound_fresh samples stores sessions).after moves).ids

/-! ## Requests that nothing holds -/

section

variable {m : Memory} {id : SampleId}

theorem receive_of_calm (ungated : m.gated = []) (unpaused : m.paused = []) (request : Request) :
    ∃ m', m.receive request.call = (m', .answered (m.replyTo request)) ∧
      m'.calls = m.calls ++
        (route request.call).toList.map fun q => logged q.endpoint request.call := by
  cases hroute : route request.call with
  | none =>
      refine ⟨m, ?_, by simp⟩
      simp only [receive, replyTo, hroute]
  | some q =>
      let noted : Memory := { m with calls := m.calls ++ [logged q.endpoint request.call] }
      have hgate : (m.receive request.call) = noted.passGate q := by
        simp [receive, hroute, ungated, noted]
      have hanswered : ∃ reply, (noted.passGate q).2 = .answered reply := by
        simp only [passGate, noted, unpaused]
        split
        · next hpaused => simp at hpaused
        · split <;> exact ⟨_, rfl⟩
      obtain ⟨reply, hreply⟩ := hanswered
      have hdata : reply = m.replyTo request := by
        apply reply_of_receiving
        rw [hgate, hreply]
      obtain ⟨samples, lastId, hkept⟩ := exists_passGate_eq q noted
      refine ⟨(noted.passGate q).1, ?_, ?_⟩
      · rw [hgate, ← hdata, ← hreply]
      · rw [hkept]
        rfl

/-! ## What has no path of its own -/

theorem route_content_cases (h : ¬ id.Addressable) :
    (route (Request.content id).call = none ∨
      route (Request.content id).call = some .listing ∨
      route (Request.content id).call = some (.idOf "") ∨
      route (Request.content id).call = some .hello) := by
  obtain ⟨text⟩ := id
  by_cases hempty : text = ""
  · subst hempty
    exact .inl rfl
  by_cases hsamples : text = "db_content"
  · subst hsamples
    exact .inr (.inl rfl)
  by_cases hidByName : text = "id_by_name"
  · subst hidByName
    exact .inr (.inr (.inl rfl))
  by_cases hhello : text = "hello"
  · subst hhello
    exact .inr (.inr (.inr rfl))
  · exact absurd ⟨hempty, hsamples, hidByName, hhello⟩ h

theorem comes_to_contents_iff :
    (∃ q, route (Request.content id).call = some q ∧ q.endpoint = .contentById) ↔
      id.Addressable := by
  constructor
  · rintro ⟨q, hq, hendpoint⟩
    by_contra hother
    rcases route_content_cases hother with h | h | h | h <;> rw [h] at hq <;> cases hq <;>
      cases hendpoint
  · intro h
    exact ⟨_, route_content h, rfl⟩

theorem stringMember?_keyedListing (ids : m.IdsInOrder) (key : String) :
    (keyedListing m.samples).stringMember? key = none := by
  have hkeys : ((m.samples.map fun s => (s.id.text, s.toJson)).map (·.1)).Nodup := by
    rw [List.map_map]
    exact nodup_text_of_idsInOrder ids
  unfold keyedListing Json.stringMember?
  rw [Json.ofPairs_of_nodup hkeys, Json.member?]
  cases hlookup : (m.samples.map fun s => (s.id.text, s.toJson)).lookup key with
  | none => rfl
  | some v =>
      -- What stands under a key is a record.
      obtain ⟨front, back, hmembers, -⟩ := List.lookup_eq_some_iff.mp hlookup
      have hmem : (key, v) ∈ m.samples.map fun s => (s.id.text, s.toJson) := by simp [hmembers]
      obtain ⟨s, -, hs⟩ := List.mem_map.mp hmem
      cases hs
      rfl

theorem stringMember?_code_listing (ids : m.IdsInOrder) :
    m.listing.stringMember? "code" = none := by
  unfold listing
  split
  · rfl
  · exact stringMember?_keyedListing ids "code"
  · rfl

theorem code_replyTo_of_not_addressable (ids : m.IdsInOrder) (works : m.failing = [])
    (h : ¬ id.Addressable) (code : String) :
    (m.replyTo (.content id)).code ≠ .ok code := by
  have hreply : ∀ q, route (Request.content id).call = some q →
      m.replyTo (.content id) = (m.answer q).2 := by
    intro q hq
    simp only [replyTo, hq, works]
    rfl
  have hbody : ∀ {body : Json}, body.stringMember? "code" = none →
      Reply.code (.ok body) ≠ .ok code := by
    intro body hnone hcode
    simp [Reply.code, Wire.readCode, hnone, Except.mapError] at hcode
  rcases route_content_cases h with hroute | hroute | hroute | hroute
  · simp only [replyTo, hroute]
    intro hcode
    cases hcode
  · rw [hreply _ hroute]
    exact hbody (stringMember?_code_listing ids)
  · rw [hreply _ hroute]
    simp only [answer]
    split
    · exact hbody rfl
    · intro hcode
      cases hcode
  · rw [hreply _ hroute]
    exact hbody rfl

theorem find?_id_eq_some_iff (ids : m.IdsInOrder) {s : Sample} :
    m.samples.find? (·.id == id) = some s ↔ s ∈ m.samples ∧ s.id = id := by
  constructor
  · intro hfind
    exact ⟨List.mem_of_find?_eq_some hfind, by simpa using List.find?_some hfind⟩
  · rintro ⟨hs, rfl⟩
    cases hfind : m.samples.find? (·.id == s.id) with
    | none => exact absurd (List.find?_eq_none.mp hfind s hs) (by simp)
    | some x =>
        have hx := List.mem_of_find?_eq_some hfind
        have hid : x.id = s.id := by simpa using List.find?_some hfind
        rw [ids.eq_of_id_eq hx hs hid]

theorem code_replyTo_content_iff (ids : m.IdsInOrder) (works : m.failing = []) (code : String) :
    (m.replyTo (.content id)).code = .ok code ↔ ∃ s ∈ m.samples, s.id = id ∧ s.code = code := by
  by_cases h : id.Addressable
  · rw [replyTo_content h (by simp [works])]
    cases hfind : m.samples.find? (·.id == id) with
    | none =>
        have hnone : ∀ s ∈ m.samples, s.id ≠ id := by
          intro s hs
          simpa using List.find?_eq_none.mp hfind s hs
        constructor
        · intro hcode
          cases hcode
        · rintro ⟨s, hs, hid, -⟩
          exact absurd hid (hnone s hs)
    | some s =>
        obtain ⟨hs, hid⟩ := (find?_id_eq_some_iff ids).mp hfind
        have hcode : Reply.code (.ok s.toJson) = .ok s.code := rfl
        constructor
        · intro h
          cases hcode.symm.trans h
          exact ⟨s, hs, hid, rfl⟩
        · rintro ⟨x, hx, hxid, rfl⟩
          rw [ids.eq_of_id_eq hx hs (hxid.trans hid.symm)]
          exact hcode
  · constructor
    · exact fun hcode => absurd hcode (code_replyTo_of_not_addressable ids works h code)
    · -- The ids of samples are numbers, which have paths of their own.
      rintro ⟨s, hs, rfl, -⟩
      exact absurd (ids.known hs).addressable h

theorem replyTo_content_ne_malformed (works : m.failing = []) :
    m.replyTo (.content id) ≠ .error ⟨some 400, "malformed id"⟩ := by
  have hnotFound : ∀ what, notFound what ≠ .error ⟨some 400, "malformed id"⟩ := by
    intro what h
    simp [notFound] at h
  by_cases h : id.Addressable
  · rw [replyTo_content h (by simp [works])]
    split
    · intro hreply
      cases hreply
    · exact hnotFound _
  · rcases route_content_cases h with hroute | hroute | hroute | hroute <;>
      simp only [replyTo, hroute, works, answer]
    · exact hnotFound _
    · intro hreply
      cases hreply
    · split
      · next hfailing => simp at hfailing
      · split
        · intro hreply
          cases hreply
        · exact hnotFound _
    · intro hreply
      cases hreply

end

/-- Whatever was done to the service before, as long as nothing is gated, paused or made to
fail: a request for the content of an id, with any characters, brings back the code of the
sample of that id, and no code if there is none.  It is a call for a content, whose path gives
the id back, exactly if the id has a path of its own; no two ids have the same path. -/
theorem contents_routed_by_id {m : Memory} (reachable : m.Reachable) (ungated : m.gated = [])
    (unpaused : m.paused = []) (works : m.failing = []) (id : SampleId) :
    let call := (Request.content id).call
    ∃ m' reply, m.receive call = (m', .answered reply) ∧
      (∀ code, reply.code = .ok code ↔ ∃ s ∈ m.samples, s.id = id ∧ s.code = code) ∧
      (m'.calls = m.calls ++ [logged .contentById call] ↔ id.Addressable) ∧
      (¬ id.Addressable → m'.callCount .contentById = m.callCount .contentById) ∧
      (id.Addressable → ∃ segment, route call = some (.content segment) ∧
        Utf8.decode? (Percent.decode segment.toList) = some id.text.toList) ∧
      reply ≠ .error ⟨some 400, "malformed id"⟩ ∧
      ∀ other, Path.content other = Path.content id → other = id := by
  intro call
  obtain ⟨m', hreceive, hcalls⟩ := receive_of_calm ungated unpaused (.content id)
  refine ⟨m', m.replyTo (.content id), hreceive, ?_, ?_, ?_, ?_, ?_, ?_⟩
  · exact code_replyTo_content_iff reachable.idsInOrder works
  · rw [← comes_to_contents_iff, hcalls]
    cases hroute : route call with
    | none => simp
    | some q => simp [logged, call]
  · intro h
    have hother : ∀ q ∈ (route call).toList, q.endpoint ≠ .contentById := by
      intro q hq hendpoint
      exact h (comes_to_contents_iff.mp ⟨q, by simpa using hq, hendpoint⟩)
    rw [callCount, hcalls, List.filter_append, List.length_append, callCount]
    simpa [logged] using hother
  · intro h
    refine ⟨_, route_content h, ?_⟩
    rw [String.toList_ofList, Percent.decode_segment, Utf8.decode?_encode]
  · exact replyTo_content_ne_malformed works
  · intro other hpath
    exact Path.content_injective hpath

theorem contents_routed_by_id_after_changes :
    let m := ((Traffic.fresh [("loop", "+[]"), ("step", "+")] 0 0).after
      [.control (.fail .contentById), .act (.bare (Request.content ⟨"1"⟩).call .code),
        .control (.recover .contentById), .control (.insert "loop" "-"),
        .control (.remove ⟨"1"⟩)]).memory
    (m.Reachable ∧ m.gated = [] ∧ m.paused = [] ∧ m.failing = []) ∧
      (∃ m' reply, m.receive (Request.content ⟨"3"⟩).call = (m', .answered reply) ∧
        reply.code = .ok "-" ∧ m'.callCount .contentById = 2) ∧
      (∃ m' reply, m.receive (Request.content ⟨"é/3?%"⟩).call = (m', .answered reply) ∧
        (∀ code, reply.code ≠ .ok code) ∧ m'.callCount .contentById = 2) ∧
      ∃ m' reply, m.receive (Request.content ⟨"db_content"⟩).call = (m', .answered reply) ∧
        (∀ code, reply.code ≠ .ok code) ∧ m'.callCount .contentById = 1 := by
  intro m
  have reachable : m.Reachable := ⟨_, _, _, _, rfl⟩
  have calm : m.gated = [] ∧ m.paused = [] ∧ m.failing = [] := by decide +kernel
  have hsamples : m.samples = [⟨⟨"2"⟩, "step", "+"⟩, ⟨⟨"3"⟩, "loop", "-"⟩] := by decide +kernel
  have hcount : m.callCount .contentById = 1 := by decide +kernel
  have routed := contents_routed_by_id reachable calm.1 calm.2.1 calm.2.2
  have counted : ∀ {m' : Memory} {call : Call},
      m'.calls = m.calls ++ [logged .contentById call] → m'.callCount .contentById = 2 := by
    intro m' call hcalls
    rw [callCount, hcalls, List.filter_append, List.length_append, ← callCount, hcount]
    rfl
  refine ⟨⟨reachable, calm⟩, ?_, ?_, ?_⟩
  · obtain ⟨m', reply, hreceive, hcode, hcalls, -⟩ := routed ⟨"3"⟩
    have addressable : SampleId.Addressable ⟨"3"⟩ := by simp [SampleId.Addressable]
    exact ⟨m', reply, hreceive, (hcode "-").mpr (by simp [hsamples]),
      counted (hcalls.mpr addressable)⟩
  · obtain ⟨m', reply, hreceive, hcode, hcalls, -⟩ := routed ⟨"é/3?%"⟩
    have addressable : SampleId.Addressable ⟨"é/3?%"⟩ := by simp [SampleId.Addressable]
    refine ⟨m', reply, hreceive, fun code h => ?_, counted (hcalls.mpr addressable)⟩
    simpa [hsamples] using (hcode code).mp h
  · obtain ⟨m', reply, hreceive, hcode, -, huncounted, -⟩ := routed ⟨"db_content"⟩
    refine ⟨m', reply, hreceive, fun code h => ?_, ?_⟩
    · simpa [hsamples] using (hcode code).mp h
    · rw [huncounted (by simp [SampleId.Addressable]), hcount]

end Memory

end CodeShelf
