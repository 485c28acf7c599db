import CodeShelf.Proofs.Course
import CodeShelf.Proofs.Detach

/-!
# Loading a sample by its name

A store loads the source of a sample in two hops: it asks for the id that the name stands
for, and then for the content of that id.  The second hop is made exactly if the first
gave an id and the store is still in use.  Whatever the service answers, nothing in view
changes but the error.
-/

namespace CodeShelf.Store

/-! ## The turns of a lookup -/

/-- How the answer to a request of a lookup by name ends the lookup on a store in use: the
error that is shown then, and the result. -/
inductive Concludes (name : String) : Request → Reply → Option Notice → Result → Prop
  | notFound {reply : Reply} (unresolved : ∀ body, reply = .ok body → Wire.resolveId body = none) :
      Concludes name (.idOf name) reply (some (.notFound name)) (.error (.notFound name))
  | failed {id : SampleId} {reply : Reply} {error : CallError}
      (codeless : ∀ body, reply = .ok body → body.stringMember? "code" = none)
      (same : ∀ e, reply = .error e → error = e) :
      Concludes name (.content id) reply (some .contentFailed) (.error (.transport error))
  | loaded {id : SampleId} {body : Json} {code : String}
      (found : body.stringMember? "code" = some code) :
      Concludes name (.content id) (.ok body) none (.ok (.code code))

theorem start_lookup_of_isLive {s : Store} (name : String) (live : s.isLive = true) :
    s.start (.fetchContent name) = ⟨s, false, .ask (.idOf name) (.lookup name)⟩ := by
  rw [start, if_pos live]

theorem start_lookup_of_not_isLive {s : Store} (name : String) (dead : s.isLive = false) :
    s.start (.fetchContent name) = .refuse s (.error .detached) := by
  rw [start, if_neg (by simp [dead])]

theorem resume_lookup_of_resolved {s : Store} {body : Json} {id : SampleId} (name : String)
    (live : s.isLive = true) (h : Wire.resolveId body = some id) :
    s.resume (.lookup name) (.ok body) = ⟨s, false, .ask (.content id) .content⟩ := by
  simp [resume, live, resumeLive, Reply.id?, h]

theorem resume_lookup_of_unresolved {s : Store} {reply : Reply} (name : String)
    (live : s.isLive = true) (h : ∀ body, reply = .ok body → Wire.resolveId body = none) :
    s.resume (.lookup name) reply =
      ⟨s.withError (some (.notFound name)), true, .finish (.error (.notFound name))⟩ := by
  cases reply with
  | ok body => simp [resume, live, resumeLive, Reply.id?, h body rfl]
  | error e => simp [resume, live, resumeLive, Reply.id?]

theorem resume_content {s : Store} (live : s.isLive = true) (name : String) (id : SampleId)
    (reply : Reply) :
    ∃ error result, s.resume .content reply = ⟨s.withError error, true, .finish result⟩ ∧
      Concludes name (.content id) reply error result := by
  rw [resume, if_pos live, resumeLive]
  cases reply with
  | error e => exact ⟨_, _, rfl, .failed (by simp) (by simp)⟩
  | ok body =>
      cases hcode : body.stringMember? "code" with
      | some code =>
          refine ⟨_, _, ?_, .loaded hcode⟩
          simp [Reply.code, Wire.readCode, hcode, Except.mapError]
      | none =>
          refine ⟨some .contentFailed, .error (.transport (Reply.malformed .noCode)), ?_,
            .failed (by simpa using hcode) (by simp)⟩
          simp [Reply.code, Wire.readCode, hcode, Except.mapError]

/-! ## The course of a lookup -/

def idLookup (task : Nat) (name : String) : Pending :=
  ⟨task, .fetchContent name, .idOf name, .lookup name⟩

def contentRequest (task : Nat) (name : String) (id : SampleId) : Pending :=
  ⟨task, .fetchContent name, .content id, .content⟩

def asksId (task : Nat) (name : String) (s : Store) : Event :=
  ⟨.start task (.fetchContent name), s, s, false, some (.ask (.idOf name) (.lookup name))⟩

def asksContent (task : Nat) (name : String) (body : Json) (id : SampleId) (s : Store) : Event :=
  ⟨.reply (idLookup task name) (.ok body), s, s, false, some (.ask (.content id) .content)⟩

@[simp] theorem request?_asksId (task : Nat) (name : String) (s : Store) :
    (asksId task name s).request? = some (.idOf name) := rfl

@[simp] theorem request?_asksContent (task : Nat) (name : String) (body : Json) (id : SampleId)
    (s : Store) : (asksContent task name body id s).request? = some (.content id) := rfl

inductive EndsLookup (name : String) (p : Pending) (next : Next Awaiting Result) : Event → Prop
  | concluded {s : Store} {reply : Reply} {error : Option Notice} {result : Result}
      (h : Concludes name p.request reply error result) (hnext : next = .finish result) :
      EndsLookup name p next ⟨.reply p reply, s, s.withError error, true, some next⟩
  | dropped {s : Store} {reply : Reply} (dead : s.isLive = false)
      (hnext : next = .finish (.error .detached)) :
      EndsLookup name p next ⟨.reply p reply, s, s, false, some next⟩

inductive Lookup (task : Nat) (name : String) : List Event → Next Awaiting Result → Prop
  | refused {s : Store} (dead : s.isLive = false) :
      Lookup task name
        [⟨.start task (.fetchContent name), s, s, false, some (.finish (.error .detached))⟩]
        (.finish (.error .detached))
  | asked {s : Store} (live : s.isLive = true) :
      Lookup task name [asksId task name s] (.ask (.idOf name) (.lookup name))
  | unresolved {s : Store} {e : Event} {next : Next Awaiting Result} (live : s.isLive = true)
      (ends : EndsLookup name (idLookup task name) next e) :
      Lookup task name [asksId task name s, e] next
  | resolved {s t : Store} {body : Json} {id : SampleId} (live : s.isLive = true)
      (still : t.isLive = true) (h : Wire.resolveId body = some id) :
      Lookup task name [asksId task name s, asksContent task name body id t]
        (.ask (.content id) .content)
  | finished {s t : Store} {body : Json} {id : SampleId} {e : Event} {next : Next Awaiting Result}
      (live : s.isLive = true) (still : t.isLive = true) (h : Wire.resolveId body = some id)
      (ends : EndsLookup name (contentRequest task name id) next e) :
      Lookup task name [asksId task name s, asksContent task name body id t, e] next

theorem endsLookup_of_not_isLive (name : String) {p : Pending}
    (late : lateResult p.awaiting = .error .detached) (reply : Reply) {s : Store}
    (dead : s.isLive = false) :
    EndsLookup name p (s.resume p.awaiting reply).next
      (.ofTurn (.reply p reply) s (s.resume p.awaiting reply)) := by
  rw [resume_of_not_isLive p.awaiting reply dead, late]
  exact .dropped dead rfl

theorem EndsLookup.not_ask {name : String} {p : Pending} {request : Request}
    {awaiting : Awaiting} {e : Event} : ¬ EndsLookup name p (.ask request awaiting) e := by
  intro h
  cases h <;> next hnext => cases hnext

theorem EndsLookup.concludes {name : String} {p : Pending} {result : Result} {e : Event}
    (h : EndsLookup name p (.finish result) e) (live : e.before.isLive = true) :
    ∃ reply error, e.cause = .reply p reply ∧ Concludes name p.request reply error result := by
  cases h with
  | concluded h hnext =>
      cases hnext
      exact ⟨_, _, rfl, h⟩
  | dropped dead hnext => cases dead.symm.trans live

theorem lookup_of_course {task : Nat} {name : String} {events : History}
    {next : Next Awaiting Result}
    (h : actor.Course task (.fetchContent name) events next) : Lookup task name events next := by
  induction h with
  | start s =>
      cases hlive : s.isLive with
      | true =>
          have hturn : actor.start (.fetchContent name) s = _ := start_lookup_of_isLive name hlive
          rw [hturn]
          exact .asked hlive
      | false =>
          have hturn : actor.start (.fetchContent name) s = _ :=
            start_lookup_of_not_isLive name hlive
          rw [hturn]
          exact .refused hlive
  | reply before reply t ih =>
      cases ih with
      | asked live =>
          cases hstill : t.isLive with
          | false => exact .unresolved live (endsLookup_of_not_isLive name rfl reply hstill)
          | true =>
              by_cases hid : ∃ body id, reply = .ok body ∧ Wire.resolveId body = some id
              · obtain ⟨body, id, rfl, hid⟩ := hid
                have hturn : actor.resume (.lookup name) (.ok body) t = _ :=
                  resume_lookup_of_resolved name hstill hid
                rw [hturn]
                exact .resolved live hstill hid
              · have hnone : ∀ body, reply = .ok body → Wire.resolveId body = none := by
                  intro body hbody
                  cases hresolve : Wire.resolveId body with
                  | none => rfl
                  | some id => exact absurd ⟨body, id, hbody, hresolve⟩ hid
                have hturn : actor.resume (.lookup name) reply t = _ :=
                  resume_lookup_of_unresolved name hstill hnone
                rw [hturn]
                exact .unresolved live (.concluded (.notFound hnone) rfl)
      | @resolved s t₀ body id live still hid =>
          cases hstill : t.isLive with
          | false => exact .finished live still hid (endsLookup_of_not_isLive name rfl reply hstill)
          | true =>
              obtain ⟨error, result, hresume, hconcludes⟩ := resume_content hstill name id reply
              have hturn : actor.resume .content reply t = _ := hresume
              rw [hturn]
              exact .finished live still hid (.concluded hconcludes rfl)
      | unresolved live ends => exact absurd ends EndsLookup.not_ask
      | finished live still hid ends => exact absurd ends EndsLookup.not_ask

theorem Lookup.length_le {task : Nat} {name : String} {events : List Event} {request : Request}
    {awaiting : Awaiting} (h : Lookup task name events (.ask request awaiting)) :
    events.length ≤ 2 := by
  cases h with
  | asked live => simp
  | resolved live still h => simp
  | unresolved live ends => exact absurd ends EndsLookup.not_ask
  | finished live still h ends => exact absurd ends EndsLookup.not_ask

theorem exists_asksContent {moves : List Move} {task : Nat} {name : String} {id : SampleId}
    (hp : contentRequest task name id ∈ (actor.run moves).waiting) :
    ∃ s body, asksContent task name body id s ∈ (actor.run moves).history ∧
      Wire.resolveId body = some id := by
  obtain ⟨op, next, hcourse, hwaiting⟩ :=
    Actor.onCourse_run moves task ((Actor.numbered_run moves).1 _ hp)
  obtain ⟨-, hop, hnext⟩ := Actor.mem_pending (hwaiting _ hp rfl)
  subst hop hnext
  have hlookup := lookup_of_course hcourse
  generalize hstory : (actor.run moves).story task = story at hlookup
  cases hlookup with
  | @resolved s t body _ live still h =>
      have hmem : asksContent task name body id t ∈ (actor.run moves).story task := by
        simp [hstory]
      exact ⟨t, body, Run.mem_history_of_mem_story hmem, h⟩
  | unresolved live ends => exact absurd ends EndsLookup.not_ask
  | finished live still h ends => exact absurd ends EndsLookup.not_ask

/-! ## What lookups do -/

def Resolves (name : String) (id : SampleId) (e : Event) : Prop :=
  ∃ p body, e.cause = .reply p (.ok body) ∧ p.request = .idOf name ∧
    Wire.resolveId body = some id ∧ e.before.isLive = true

/-- What an event of a lookup by name does: at the start an id is asked for exactly if the
store is in use, nothing changes but the error, and where the event ends the lookup on a
store in use it does so as its answer says. -/
structure LookupEvent (task : Nat) (name : String) (e : Event) : Prop where
  asks_iff : e.cause = .start task (.fetchContent name) →
    (e.request? = some (.idOf name) ↔ e.before.isLive = true)
  untouched : e.after = e.before.withError e.after.view.error
  ends : ∀ result, e.result? = some result → e.before.isLive = true →
    ∃ p reply, e.cause = .reply p reply ∧
      Concludes name p.request reply e.after.view.error result

structure LooksUp (r : Run) (task : Nat) (name : String) : Prop where
  requests : r.requests task = [] ∨ r.requests task = [.idOf name] ∨
    ∃ id, r.requests task = [.idOf name, .content id]
  paths : ∀ request ∈ r.requests task,
    request.call = .get "/code/id_by_name" [("name", name)] ∨
      ∃ id, request = .content id ∧ request.call = .get (Path.content id) []
  content_iff : ∀ id, .content id ∈ r.requests task ↔ ∃ e ∈ r.story task, Resolves name id e
  events : ∀ e ∈ r.story task, LookupEvent task name e

namespace EndsLookup

variable {task : Nat} {name : String} {p : Pending} {next : Next Awaiting Result} {e : Event}

theorem request_eq (h : EndsLookup name p next e) : e.request? = none := by
  cases h <;> next hnext => rw [hnext]; rfl

theorem not_resolves (h : EndsLookup name p next e) (id : SampleId) : ¬ Resolves name id e := by
  rintro ⟨q, body, hcause, hrequest, hid, hlive⟩
  cases h with
  | concluded h hnext =>
      cases hcause
      generalize p.request = request at h hrequest
      cases h with
      | notFound unresolved => cases (unresolved body rfl).symm.trans hid
      | failed codeless same => cases hrequest
      | loaded found => cases hrequest
  | dropped dead hnext => cases dead.symm.trans hlive

theorem lookupEvent (h : EndsLookup name p next e) : LookupEvent task name e := by
  cases h with
  | concluded h hnext =>
      refine ⟨?_, rfl, ?_⟩
      · intro hcause
        cases hcause
      · intro result hresult _
        rw [hnext] at hresult
        cases hresult
        exact ⟨p, _, rfl, h⟩
  | dropped dead hnext =>
      refine ⟨?_, rfl, ?_⟩
      · intro hcause
        cases hcause
      · intro result _ hlive
        cases dead.symm.trans hlive

end EndsLookup

theorem lookupEvent_asksId {s : Store} (task : Nat) (name : String) (live : s.isLive = true) :
    LookupEvent task name (asksId task name s) := by
  refine ⟨fun _ => ⟨fun _ => live, fun _ => rfl⟩, rfl, ?_⟩
  intro result hresult
  cases hresult

theorem lookupEvent_asksContent (task : Nat) (name : String) (body : Json) (id : SampleId)
    (s : Store) : LookupEvent task name (asksContent task name body id s) := by
  refine ⟨?_, rfl, ?_⟩
  · intro hcause
    cases hcause
  · intro result hresult
    cases hresult

theorem not_resolves_asksId (task : Nat) (name : String) (s : Store) (id : SampleId) :
    ¬ Resolves name id (asksId task name s) := by
  rintro ⟨p, body, hcause, -⟩
  cases hcause

theorem resolves_asksContent_iff {task : Nat} {name : String} {body : Json} {id : SampleId}
    {s : Store} (live : s.isLive = true) (h : Wire.resolveId body = some id) (id' : SampleId) :
    Resolves name id' (asksContent task name body id s) ↔ id' = id := by
  constructor
  · rintro ⟨p, body', hcause, -, hid, -⟩
    cases hcause
    exact Option.some.inj (hid.symm.trans h)
  · rintro rfl
    exact ⟨_, body, rfl, rfl, h, live⟩

namespace Lookup

variable {task : Nat} {name : String} {events : History} {next : Next Awaiting Result}

theorem event (h : Lookup task name events next) : ∀ e ∈ events, LookupEvent task name e := by
  cases h with
  | refused dead =>
      rw [List.forall_mem_singleton]
      refine ⟨fun _ => ?_, rfl, fun _ _ hlive => ?_⟩
      · simp [Event.request?, Next.request?, dead]
      · cases dead.symm.trans hlive
  | asked live => simp [lookupEvent_asksId task name live]
  | unresolved live ends => simp [lookupEvent_asksId task name live, ends.lookupEvent]
  | resolved live still h =>
      simp [lookupEvent_asksId task name live, lookupEvent_asksContent]
  | finished live still h ends =>
      simp [lookupEvent_asksId task name live, lookupEvent_asksContent, ends.lookupEvent]

theorem requests (h : Lookup task name events next) :
    ((events.filterMap Event.request? = [] ∨ events.filterMap Event.request? = [.idOf name]) ∧
      ∀ id, ¬ ∃ e ∈ events, Resolves name id e) ∨
    ∃ id, events.filterMap Event.request? = [.idOf name, .content id] ∧
      ∀ id', (∃ e ∈ events, Resolves name id' e) ↔ id' = id := by
  cases h with
  | refused dead =>
      refine .inl ⟨.inl rfl, ?_⟩
      rintro id ⟨e, he, p, body, hcause, -⟩
      rw [List.mem_singleton.mp he] at hcause
      cases hcause
  | asked live => exact .inl ⟨.inr rfl, by simp [not_resolves_asksId]⟩
  | unresolved live ends =>
      refine .inl ⟨.inr ?_, by simp [not_resolves_asksId, ends.not_resolves]⟩
      simp [ends.request_eq]
  | @resolved s t body id live still h =>
      refine .inr ⟨id, rfl, ?_⟩
      simp [not_resolves_asksId, resolves_asksContent_iff still h]
  | @finished s t body id e next live still h ends =>
      refine .inr ⟨id, ?_, ?_⟩
      · simp [ends.request_eq]
      · simp [not_resolves_asksId, resolves_asksContent_iff still h, ends.not_resolves]

end Lookup

/-- A sample is loaded in two hops.  In every interleaving, a task that loads a sample by
its name looks its id up at most once and then asks for at most one content, which is the
content of the id that it got while the store was in use; nothing changes but the error;
and if the store is in use to the end, the task ends as `Concludes` says. -/
theorem lookups_in_two_hops (moves : List Move) (task : Nat) (name : String)
    (h : ∃ e ∈ (actor.run moves).history, e.cause = .start task (.fetchContent name)) :
    LooksUp (actor.run moves) task name := by
  obtain ⟨next, hcourse, -⟩ := Actor.exists_course h
  have hlookup := lookup_of_course hcourse
  have hrequests := hlookup.requests
  rw [← Run.requests] at hrequests
  refine ⟨?_, ?_, ?_, hlookup.event⟩
  · rcases hrequests with ⟨hnone | hone, -⟩ | ⟨id, htwo, -⟩
    · exact .inl hnone
    · exact .inr (.inl hone)
    · exact .inr (.inr ⟨id, htwo⟩)
  · rcases hrequests with ⟨hnone | hone, -⟩ | ⟨id, htwo, -⟩ <;>
      simp [*, Request.call, Path.idByName]
  · intro id
    rcases hrequests with ⟨hnone | hone, hresolves⟩ | ⟨id', htwo, hresolves⟩
    · simp [hnone, hresolves id]
    · simp [hone, hresolves id]
    · simp [htwo, hresolves id]

def overlappingLookups : List Move :=
  [.start (.fetchContent "loop"), .start (.fetchContent "step"), .reply 0 (.ok (.str " 7 ")),
    .reply 1 (.ok (.obj [("id", .str "8")])),
    .reply 0 (.ok (.obj [("code", .str "+[]")])), .change .detach,
    .reply 1 (.ok (.obj [("code", .str "+")]))]

theorem lookups_in_two_hops_overlapping :
    let r := actor.run overlappingLookups
    r.results 0 = [.ok (.code "+[]")] ∧ r.requests 0 = [.idOf "loop", .content ⟨"7"⟩] ∧
      LooksUp r 0 "loop" ∧
      r.results 1 = [.error .detached] ∧ r.requests 1 = [.idOf "step", .content ⟨"8"⟩] ∧
      LooksUp r 1 "step" := by
  refine ⟨rfl, rfl, ?_, rfl, rfl, ?_⟩
  · exact lookups_in_two_hops _ 0 _ ⟨_, List.mem_of_getElem? (i := 0) rfl, rfl⟩
  · exact lookups_in_two_hops _ 1 _ ⟨_, List.mem_of_getElem? (i := 1) rfl, rfl⟩

end CodeShelf.Store
