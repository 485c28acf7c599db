import CodeShelf.Proofs.Store.Lookup
import CodeShelf.Proofs.Traffic.Moments
import CodeShelf.Proofs.Traffic.Progress
import CodeShelf.Proofs.Transport.Routing

/-!
# The content of a name

A store that loads a sample by its name asks for the id first and then for the content of
that id.  Between the two anything may be done to the samples.  Since an id is never given
twice, the content of the id is that of the first sample of the name, or there is none.
-/

namespace CodeShelf

open Text

theorem SampleId.addressable_ofNat (n : Nat) : (ofNat n).Addressable := by
  have hletter : ∀ text : String, (∃ c ∈ text.toList, c.isDigit = false) →
      (ofNat n).text ≠ text := by
    rintro text ⟨c, hc, hdigit⟩ rfl
    rw [ofNat, String.toList_ofList] at hc
    exact absurd (isDigit_of_mem_natText hc) (by simp [hdigit])
  refine ⟨?_, hletter _ ?_, hletter _ ?_, hletter _ ?_⟩
  · intro hempty
    have hchars := congrArg String.toList hempty
    rw [ofNat, String.toList_ofList] at hchars
    exact Nat.toDigits_ne_nil hchars
  · exact ⟨'d', by decide, by decide⟩
  · exact ⟨'i', by decide, by decide⟩
  · exact ⟨'h', by decide, by decide⟩

namespace Memory

/-! ## What the service says of one sample -/

variable {m : Memory} {s : Sample}

theorem Known.addressable (known : m.Known s) : s.id.Addressable := by
  obtain ⟨n, -, hid⟩ := known
  exact hid ▸ SampleId.addressable_ofNat n

theorem replyTo_idOf {name : String} (works : Endpoint.idByName ∉ m.failing) :
    m.replyTo (.idOf name) =
      match m.samples.find? (·.name == name) with
      | some s => .ok (.str s.id.text)
      | none => notFound "name" := by
  change (if m.failing.contains .idByName then _ else (m.answer (.idOf name)).2) = _
  rw [if_neg (by simpa using works), answer]
  cases m.samples.find? (·.name == name) <;> rfl

theorem replyTo_content {id : SampleId} (addressable : id.Addressable)
    (works : Endpoint.contentById ∉ m.failing) :
    m.replyTo (.content id) =
      match m.samples.find? (·.id == id) with
      | some s => .ok s.toJson
      | none => notFound "sample" := by
  rw [replyTo, route_content addressable]
  simp only [Question.endpoint, answer_content]
  rw [if_neg (by simpa using works)]
  cases m.samples.find? (·.id == id) <;> rfl

end Memory

theorem Control.failing_effect {m : Memory} {c : Control} {e : Endpoint}
    (h : e ∈ (c.effect m).failing) : e ∈ m.failing ∨ c = .fail e := by
  cases c <;> simp only [Control.effect, Memory.insert, Memory.remove] at h
  case fail e' =>
    simp only [Memory.including] at h
    split at h
    · exact .inl h
    · rcases List.mem_append.mp h with hold | hnew
      · exact .inl hold
      · exact .inr (by rw [List.mem_singleton.mp hnew])
  case recover e' => exact .inl (List.mem_filter.mp h).1
  case release e' index =>
    simp only [Memory.release] at h
    split at h <;> exact .inl h
  all_goals exact .inl h

namespace Traffic

theorem fail_mem_of_failing {samples : List (String × String)} {stores sessions : Nat}
    {moves : List Move} {e : Endpoint}
    (h : e ∈ ((fresh samples stores sessions).after moves).memory.failing) :
    .control (.fail e) ∈ moves := by
  induction moves using List.reverseRecOn with
  | nil =>
      obtain ⟨stored, lastId, hfresh⟩ := Memory.exists_withSamples_eq samples
      change e ∈ (Memory.withSamples samples).failing at h
      rw [hfresh] at h
      cases h
  | append_singleton moves m ih =>
      rw [after_concat] at h
      rcases switches_step ((fresh samples stores sessions).after moves) m with
        ⟨hfailing, -⟩ | ⟨c, rfl, hmemory⟩
      · rw [hfailing] at h
        exact List.mem_append_left _ (ih h)
      · rw [hmemory] at h
        rcases Control.failing_effect h with hold | rfl
        · exact List.mem_append_left _ (ih hold)
        · exact List.mem_append_right _ (List.mem_singleton_self _)

theorem mem_of_known_after {t : Traffic} (moves : List Move) {s : Sample}
    (known : t.memory.Known s) (hs : s ∈ (t.after moves).memory.samples) :
    s ∈ t.memory.samples := by
  suffices h : (t.after moves).memory.Known s ∧
      (s ∈ (t.after moves).memory.samples → s ∈ t.memory.samples) from h.2 hs
  clear hs
  induction moves using List.reverseRecOn with
  | nil => exact ⟨known, id⟩
  | append_singleton moves m ih =>
      rw [after_concat]
      have hfollows := (t.after moves).follows_step m
      exact ⟨hfollows.known ih.1, fun hs => ih.2 (hfollows.mem_of_known ih.1 hs)⟩

/-! ## The two moments of a lookup -/

def Served (start : Traffic) (index : Nat) (r : Store.Run) (p : Store.Pending)
    (first moves : List Move) : Prop :=
  ∃ e ∈ r.history, ∃ reply, e.cause = .reply p reply ∧
    AnsweredAfter start index p reply first moves

/-- What a lookup by name comes to: it goes by the samples at the moment at which its id is
looked up and at the moment at which its content is served. -/
def LoadsFirst (start : Traffic) (index task : Nat) (name : String) (moves : List Move)
    (r : Store.Run) (result : Store.Result) : Prop :=
  ∃ looked, Served start index r (Store.idLookup task name) looked moves ∧
    (result = .error (.notFound name) ↔
      ∀ s ∈ (start.after looked).memory.samples, s.name ≠ name) ∧
    ∀ s, (start.after looked).memory.samples.find? (·.name == name) = some s →
      ∃ rest, Served start index r (Store.contentRequest task name s.id) (looked ++ rest) moves ∧
        let samples := (start.after (looked ++ rest)).memory.samples
        (∀ x ∈ samples, x.id = s.id → x = s) ∧
          (result = .ok (.code s.code) ↔ s ∈ samples) ∧
          (result = .error (.transport ⟨some 404, "sample not found"⟩) ↔ s ∉ samples)

section

variable {samples : List (String × String)} {stores sessions index task : Nat} {name : String}
  {id : SampleId} {reply : Reply} {first moves : List Move}

theorem not_failing_of_calm {e : Endpoint} (calm : .control (.fail e) ∉ moves)
    {p : Store.Pending}
    (h : AnsweredAfter (fresh samples stores sessions) index p reply first moves) :
    e ∉ ((fresh samples stores sessions).after first).memory.failing := by
  obtain ⟨m, hmoves, -⟩ := h
  intro hfailing
  exact calm (hmoves.subset (List.mem_append_left _ (fail_mem_of_failing hfailing)))

theorem reply_idLookup (calm : .control (.fail .idByName) ∉ moves)
    (h : AnsweredAfter (fresh samples stores sessions) index (Store.idLookup task name) reply
      first moves) :
    reply = match ((fresh samples stores sessions).after first).memory.samples.find?
        (·.name == name) with
      | some s => .ok (.str s.id.text)
      | none => Memory.notFound "name" := by
  rw [(sound_fresh samples stores sessions).reply_of_answeredAfter h]
  exact Memory.replyTo_idOf (not_failing_of_calm calm h)

theorem reply_contentRequest (calm : .control (.fail .contentById) ∉ moves)
    (addressable : id.Addressable)
    (h : AnsweredAfter (fresh samples stores sessions) index (Store.contentRequest task name id)
      reply first moves) :
    reply = match ((fresh samples stores sessions).after first).memory.samples.find?
        (·.id == id) with
      | some s => .ok s.toJson
      | none => Memory.notFound "sample" := by
  rw [(sound_fresh samples stores sessions).reply_of_answeredAfter h]
  exact Memory.replyTo_content addressable (not_failing_of_calm calm h)

theorem looked_before_served {r : Store.Run}
    (hr : ((fresh samples stores sessions).after moves).stores[index]? = some r)
    (h : AnsweredAfter (fresh samples stores sessions) index (Store.contentRequest task name id)
      reply first moves) :
    ∃ looked rest e body, first = looked ++ rest ∧ e ∈ r.history ∧
      e.cause = .reply (Store.idLookup task name) (.ok body) ∧
      Wire.resolveId body = some id ∧
      AnsweredAfter (fresh samples stores sessions) index (Store.idLookup task name) (.ok body)
        looked moves := by
  obtain ⟨m, ⟨more, rfl⟩, -, ⟨⟨r₀, hr₀, hp⟩, -⟩⟩ := h
  -- The store waits for the content then, so it has taken in the id before.
  obtain ⟨own, rfl⟩ := ((sound_fresh samples stores sessions).after (first ++ [m])).runs _ _ hr₀
  obtain ⟨s, body, he, hid⟩ := Store.exists_asksContent hp
  obtain ⟨looked, hmoment⟩ := exists_moment hr₀ he rfl
  have ⟨m', hlooked, _⟩ := hmoment
  have hfirst : looked <+: first := by
    rcases List.prefix_concat_iff.mp hlooked with heq | hshorter
    · exact (List.append_inj' heq rfl).1 ▸ List.prefix_refl looked
    · exact (List.prefix_append looked [m']).trans hshorter
  obtain ⟨rest, rfl⟩ := hfirst
  rw [after_append] at hr
  obtain ⟨later, hlater⟩ := history_after more hr₀ hr
  refine ⟨looked, rest, Store.asksContent task name body id s, body, rfl, ?_, rfl, hid,
    hmoment.mono (List.prefix_append _ _)⟩
  rw [hlater]
  exact List.mem_append_left _ he

theorem content_cases {samples : List Sample} {s : Sample} {error : Option Notice}
    {result : Store.Result} (only : ∀ x ∈ samples, x.id = s.id → x = s)
    (hreply : reply = match samples.find? (·.id == s.id) with
      | some x => .ok x.toJson
      | none => Memory.notFound "sample")
    (h : Store.Concludes name (.content s.id) reply error result) :
    (result = .ok (.code s.code) ∧ s ∈ samples) ∨
      (result = .error (.transport ⟨some 404, "sample not found"⟩) ∧ s ∉ samples) := by
  cases hfind : samples.find? (·.id == s.id) with
  | some x =>
      have hx := List.mem_of_find?_eq_some hfind
      obtain rfl := only x hx (by simpa using List.find?_some hfind)
      have hcode : x.toJson.stringMember? "code" = some x.code := rfl
      rw [hfind] at hreply
      subst hreply
      cases h with
      | failed codeless same => cases (codeless _ rfl).symm.trans hcode
      | loaded found =>
          cases found.symm.trans hcode
          exact .inl ⟨rfl, hx⟩
  | none =>
      rw [hfind] at hreply
      subst hreply
      cases h with
      | failed codeless same =>
          refine .inr ⟨by rw [same _ rfl]; rfl, fun hs => ?_⟩
          simpa using List.find?_eq_none.mp hfind s hs

theorem loadsFirst_of_unresolved {r : Store.Run} {e : Store.Event}
    (hr : ((fresh samples stores sessions).after moves).stores[index]? = some r)
    (he : e ∈ r.history) (hcause : e.cause = .reply (Store.idLookup task name) reply)
    (unresolved : ∀ body, reply = .ok body → Wire.resolveId body = none)
    (findsIds : .control (.fail .idByName) ∉ moves) :
    LoadsFirst (fresh samples stores sessions) index task name moves r
      (.error (.notFound name)) := by
  obtain ⟨looked, hmoment⟩ := exists_moment hr he hcause
  have hreply := reply_idLookup findsIds hmoment
  have hnone : ((fresh samples stores sessions).after looked).memory.samples.find?
      (·.name == name) = none := by
    cases hfind : ((fresh samples stores sessions).after looked).memory.samples.find?
        (·.name == name) with
    | none => rfl
    | some s =>
        rw [hfind] at hreply
        have ids := ((sound_fresh samples stores sessions).after looked).ids
        have known := ids.known (List.mem_of_find?_eq_some hfind)
        cases (unresolved _ hreply).symm.trans (Wire.resolveId_of_plain known.plain)
  refine ⟨looked, ⟨e, he, reply, hcause, hmoment⟩, ⟨fun _ s hs => ?_, fun _ => rfl⟩,
    fun s hfind => ?_⟩
  · simpa using List.find?_eq_none.mp hnone s hs
  · cases hnone.symm.trans hfind

theorem loadsFirst_of_content {r : Store.Run} {e : Store.Event} {error : Option Notice}
    {result : Store.Result}
    (hr : ((fresh samples stores sessions).after moves).stores[index]? = some r)
    (he : e ∈ r.history) (hcause : e.cause = .reply (Store.contentRequest task name id) reply)
    (h : Store.Concludes name (.content id) reply error result)
    (findsIds : .control (.fail .idByName) ∉ moves)
    (findsContents : .control (.fail .contentById) ∉ moves) :
    LoadsFirst (fresh samples stores sessions) index task name moves r result := by
  obtain ⟨first, hserved⟩ := exists_moment hr he hcause
  obtain ⟨looked, rest, e', body, rfl, he', hcause', hid, hlooked⟩ :=
    looked_before_served hr hserved
  have ids := ((sound_fresh samples stores sessions).after looked).ids
  have hbody := reply_idLookup findsIds hlooked
  cases hfind : ((fresh samples stores sessions).after looked).memory.samples.find?
      (·.name == name) with
  | none =>
      rw [hfind] at hbody
      cases hbody
  | some s =>
      rw [hfind] at hbody
      cases hbody
      have hs := List.mem_of_find?_eq_some hfind
      have known := ids.known hs
      cases hid.symm.trans (Wire.resolveId_of_plain known.plain)
      -- No id is given twice, so what has the id now had it when it was looked up.
      have only : ∀ x ∈ ((fresh samples stores sessions).after (looked ++ rest)).memory.samples,
          x.id = s.id → x = s := by
        intro x hx hxid
        have hxknown : ((fresh samples stores sessions).after looked).memory.Known x := by
          rwa [Memory.Known, hxid]
        rw [after_append] at hx
        exact ids.eq_of_id_eq (mem_of_known_after rest hxknown hx) hs hxid
      have hcases :=
        content_cases only (reply_contentRequest findsContents known.addressable hserved) h
      refine ⟨looked, ⟨e', he', _, hcause', hlooked⟩, ⟨fun hresult => ?_, fun hnone => ?_⟩,
        fun s' hfind' => ?_⟩
      · rcases hcases with ⟨hcode, -⟩ | ⟨hgone, -⟩
        · cases hcode.symm.trans hresult
        · cases hgone.symm.trans hresult
      · exact absurd (by simpa using List.find?_some hfind) (hnone s hs)
      · cases hfind.symm.trans hfind'
        refine ⟨rest, ⟨e, he, reply, hcause, hserved⟩, only, ?_, ?_⟩
        · rcases hcases with ⟨rfl, hmem⟩ | ⟨rfl, hmem⟩ <;> simp [hmem]
        · rcases hcases with ⟨rfl, hmem⟩ | ⟨rfl, hmem⟩ <;> simp [hmem]

theorem loadsFirst_of_lookup {r : Store.Run} {result : Store.Result}
    (hr : ((fresh samples stores sessions).after moves).stores[index]? = some r)
    (lookup : Store.Lookup task name (r.story task) (.finish result))
    (live : ∀ e ∈ r.story task, e.before.isLive = true)
    (findsIds : .control (.fail .idByName) ∉ moves)
    (findsContents : .control (.fail .contentById) ∉ moves) :
    LoadsFirst (fresh samples stores sessions) index task name moves r result := by
  have hstory : ∀ e ∈ r.story task, e ∈ r.history := fun e => Run.mem_history_of_mem_story
  generalize r.story task = story at lookup live hstory
  cases lookup with
  | refused dead =>
      have hlive := live _ (List.mem_singleton_self _)
      cases dead.symm.trans hlive
  | @unresolved s e _ _ ends =>
      have he : e ∈ [Store.asksId task name s, e] := by simp
      obtain ⟨reply, error, hcause, hconcludes⟩ := ends.concludes (live e he)
      cases hconcludes with
      | notFound unresolved =>
          exact loadsFirst_of_unresolved hr (hstory e he) hcause unresolved findsIds
  | @finished s t body id e _ _ _ _ ends =>
      have he : e ∈ [Store.asksId task name s, Store.asksContent task name body id t, e] := by simp
      obtain ⟨reply, error, hcause, hconcludes⟩ := ends.concludes (live e he)
      exact loadsFirst_of_content hr (hstory e he) hcause hconcludes findsIds findsContents

theorem Sound.exists_lookup {t : Traffic} (sound : Sound t) {r : Store.Run}
    (hr : t.stores[index]? = some r)
    (started : ∃ e ∈ r.history, e.cause = .start task (.fetchContent name)) :
    task < r.tasks ∧ ∃ next, Store.Lookup task name (r.story task) next ∧
      r.results task = next.result?.toList := by
  obtain ⟨own, rfl⟩ := sound.runs index r hr
  obtain ⟨next, hcourse, hresults⟩ := Actor.exists_course started
  obtain ⟨e, he, hcause⟩ := started
  refine ⟨?_, next, Store.lookup_of_course hcourse, hresults⟩
  exact (Actor.numbered_run own).2 e he task (by rw [Event.task?, hcause])

theorem Sound.lookup_seenThrough {t : Traffic} (sound : Sound t) (attended : Attended t)
    {r : Store.Run} (hr : t.stores[index]? = some r)
    (started : ∃ e ∈ r.history, e.cause = .start task (.fetchContent name))
    (unpaused : t.memory.paused = []) :
    ∃ r' result, (t.after (seeThrough (.store index task) ++
        seeThrough (.store index task))).stores[index]? = some r' ∧
      r'.results task = [result] := by
  have hfirst := sound.exists_lookup hr started
  obtain ⟨r₁, hr₁, hkept₁, hgrows₁⟩ := story_seeThrough sound attended unpaused hr hfirst.1
  have sound₁ := sound.after (seeThrough (.store index task))
  have attended₁ := attended.after sound (seeThrough (.store index task))
  have unpaused₁ := (paused_seeThrough t (.store index task)).trans unpaused
  have started₁ := started.imp fun e he => And.intro (hkept₁.subset he.1) he.2
  have hsecond := sound₁.exists_lookup hr₁ started₁
  obtain ⟨r₂, hr₂, hkept₂, hgrows₂⟩ :=
    story_seeThrough sound₁ attended₁ unpaused₁ hr₁ hsecond.1
  have started₂ := started₁.imp fun e he => And.intro (hkept₂.subset he.1) he.2
  have sound₂ := sound₁.after (seeThrough (.store index task))
  obtain ⟨-, next, hlookup, hresults⟩ := sound₂.exists_lookup hr₂ started₂
  rw [after_append]
  cases next with
  | finish result => exact ⟨r₂, result, hr₂, hresults⟩
  | ask request awaiting =>
      -- A lookup that still asks after two more turns would have had three of them.
      have hresults₁ := Run.results_eq_nil_of_history hkept₂ hresults
      have hlength₂ := hgrows₂ hresults₁
      have hlength₁ := hgrows₁ (Run.results_eq_nil_of_history hkept₁ hresults₁)
      have hle := hlookup.length_le
      have hpos : 0 < (r.story task).length := by
        obtain ⟨e, he, hcause⟩ := started
        refine List.length_pos_of_mem (a := e) (List.mem_filter.mpr ⟨he, ?_⟩)
        simp [Event.task?, hcause]
      omega

end

/-- Content by name is that of the first sample of the name.  Whatever is done to the service
and by those who use it while a store loads a sample by its name, a store that is in use at
each of its turns gets what `LoadsFirst` says if neither of the two endpoints was made to
fail; and nothing but a pause can keep the lookup from its end. -/
theorem first_of_name_loaded (samples : List (String × String)) (stores sessions : Nat)
    (moves : List Move) (index task : Nat) (name : String) (r : Store.Run)
    (hr : ((fresh samples stores sessions).after moves).stores[index]? = some r)
    (started : ∃ e ∈ r.history, e.cause = .start task (.fetchContent name))
    (live : ∀ e ∈ r.story task, e.before.isLive = true)
    (findsIds : .control (.fail .idByName) ∉ moves)
    (findsContents : .control (.fail .contentById) ∉ moves) :
    let start := fresh samples stores sessions
    let t := start.after moves
    let caller := Caller.store index task
    (r.results task = [] ∨ ∃ result, r.results task = [result] ∧
        LoadsFirst start index task name moves r result) ∧
      (t.memory.paused = [] → ∃ r' result,
        (t.after (seeThrough caller ++ seeThrough caller)).stores[index]? = some r' ∧
          r'.results task = [result]) := by
  intro start t caller
  have fresh := sound_fresh samples stores sessions
  have sound : Sound t := fresh.after moves
  have attended : Attended t := (attended_fresh samples stores sessions).after fresh moves
  refine ⟨?_, sound.lookup_seenThrough attended hr started⟩
  obtain ⟨-, next, hlookup, hresults⟩ := sound.exists_lookup hr started
  cases next with
  | ask request awaiting => exact .inl hresults
  | finish result =>
      exact .inr ⟨result, hresults, loadsFirst_of_lookup hr hlookup live findsIds findsContents⟩

/-- Three lookups while samples come and go: another sample of the name comes before the
first content is served, the first sample goes before the second is, and nothing has the
name of the third. -/
def comingAndGoing : List Move :=
  [.control (.gate .contentById), .act (.store 0 (.fetchContent "loop")),
    .deliver (.store 0 0), .control (.insert "loop" "-"), .proceed (.store 0 0),
    .deliver (.store 0 0), .act (.store 0 (.fetchContent "loop")), .deliver (.store 0 1),
    .control (.remove ⟨"1"⟩), .proceed (.store 0 1), .deliver (.store 0 1),
    .act (.store 0 (.fetchContent "step")), .deliver (.store 0 2)]

theorem first_of_name_loaded_coming_and_going :
    let start := fresh [("loop", "+[]")] 1 0
    ∃ r, (start.after comingAndGoing).stores[0]? = some r ∧
      r.results 0 = [.ok (.code "+[]")] ∧
      LoadsFirst start 0 0 "loop" comingAndGoing r (.ok (.code "+[]")) ∧
      r.results 1 = [.error (.transport ⟨some 404, "sample not found"⟩)] ∧
      LoadsFirst start 0 1 "loop" comingAndGoing r
        (.error (.transport ⟨some 404, "sample not found"⟩)) ∧
      r.results 2 = [.error (.notFound "step")] ∧
      LoadsFirst start 0 2 "step" comingAndGoing r (.error (.notFound "step")) := by
  intro start
  have hlt : 0 < (start.after comingAndGoing).stores.length := by decide +kernel
  have hr := List.getElem?_eq_getElem hlt
  generalize (start.after comingAndGoing).stores[0] = r at hr
  have hmem := List.mem_of_getElem? hr
  have hstarts : ∀ r ∈ (start.after comingAndGoing).stores, (r.history.filterMap fun e =>
      e.cause.casesOn (fun task op => some (task, op)) (fun _ _ => none) (fun _ => none)) =
        [(0, .fetchContent "loop"), (1, .fetchContent "loop"), (2, .fetchContent "step")] := by
    decide +kernel
  have hlive : ∀ r ∈ (start.after comingAndGoing).stores, ∀ e ∈ r.history,
      e.before.isLive = true := by decide +kernel
  have hresults : ∀ r ∈ (start.after comingAndGoing).stores, r.results 0 = [.ok (.code "+[]")] ∧
      r.results 1 = [.error (.transport ⟨some 404, "sample not found"⟩)] ∧
      r.results 2 = [.error (.notFound "step")] := by decide +kernel
  have loads : ∀ task name result, (task, Store.Operation.fetchContent name) ∈
      [(0, .fetchContent "loop"), (1, .fetchContent "loop"), (2, .fetchContent "step")] →
      r.results task = [result] → LoadsFirst start 0 task name comingAndGoing r result := by
    intro task name result hstarted hresult
    rw [← hstarts r hmem] at hstarted
    obtain ⟨e, he, hcause⟩ := List.mem_filterMap.mp hstarted
    have hstart : e.cause = .start task (.fetchContent name) := by
      cases hkind : e.cause with
      | start task' op =>
          rw [hkind] at hcause
          cases hcause
          rfl
      | reply p reply => simp [hkind] at hcause
      | change c => simp [hkind] at hcause
    obtain ⟨hloads, -⟩ := first_of_name_loaded [("loop", "+[]")] 1 0 comingAndGoing 0 task name r hr
      ⟨e, he, hstart⟩ (fun e he => hlive r hmem e (Run.mem_history_of_mem_story he))
      (by simp [comingAndGoing]) (by simp [comingAndGoing])
    rcases hloads with hnone | ⟨result', hresult', hloads⟩
    · cases hresult.symm.trans hnone
    · cases hresult.symm.trans hresult'
      exact hloads
  obtain ⟨hfirst, hsecond, hthird⟩ := hresults r hmem
  exact ⟨r, hr, hfirst, loads _ _ _ (by simp) hfirst, hsecond, loads _ _ _ (by simp) hsecond,
    hthird, loads _ _ _ (by simp) hthird⟩

end Traffic

end CodeShelf
