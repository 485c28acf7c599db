import CodeShelf.Cli
import CodeShelf.Proofs.Session.Submission
import CodeShelf.Proofs.Store.Addition
import CodeShelf.Proofs.Store.Lookup
import CodeShelf.Proofs.Transport.Http

/-!
# Operations over a link

What an operation of a store or a session comes to when it is carried through over a link
at once: it succeeds exactly if the calls that count for it bring back what it needs.
-/

namespace CodeShelf.Cli

open Http

/-! ## Turns over a link -/

section Drive

variable {s : Store} {request : Request} {result : Store.Result} (link : Link)

theorem finishStore_of_finish {awaiting : Store.Awaiting} {reply : Reply}
    (h : (s.resume awaiting reply).next = .finish result) :
    finishStore s awaiting reply link = ((s.resume awaiting reply).state, result, link) := by
  rw [finishStore]
  split
  · next hfinish =>
      cases h.symm.trans hfinish
      rfl
  · next hask => cases h.symm.trans hask

theorem finishStore_of_ask {awaiting next : Store.Awaiting} {reply : Reply}
    (h : (s.resume awaiting reply).next = .ask request next) :
    finishStore s awaiting reply link =
      finishStore (s.resume awaiting reply).state next (link.send request.call).2
        (link.send request.call).1 := by
  rw [finishStore]
  split
  · next hfinish => cases h.symm.trans hfinish
  · next hask =>
      cases h.symm.trans hask
      rfl

theorem performStore_of_finish {op : Store.Operation} (h : (s.start op).next = .finish result) :
    performStore op s link = ((s.start op).state, result, link) := by
  simp [performStore, h]

theorem performStore_of_ask {op : Store.Operation} {awaiting : Store.Awaiting}
    (h : (s.start op).next = .ask request awaiting) :
    performStore op s link =
      finishStore (s.start op).state awaiting (link.send request.call).2
        (link.send request.call).1 := by
  simp [performStore, h]

end Drive

theorem start_attach {s : Store} (created : s.view.lifecycle = .created) :
    ∃ s' number, s.start .attach = ⟨s', true, .ask .listing (.listing number .fetch)⟩ ∧
      s'.isLive = true := by
  rw [Store.start, if_pos created, Store.issueListing_of_isLive .fetch rfl]
  exact ⟨_, _, rfl, rfl⟩

/-! ## Operations -/

theorem performStore_attach {s : Store} (created : s.view.lifecycle = .created) (link : Link) :
    (∃ s' link', performStore .attach s link = (s', .ok .done, link') ∧
        ∃ body samples, link.Obtains Request.listing.call body link' ∧
          Wire.readListing body = .ok samples) ∨
      ∃ s' e link', performStore .attach s link = (s', .error (.transport e), link') ∧
        ∀ body l' samples, link.Obtains Request.listing.call body l' →
          Wire.readListing body ≠ .ok samples := by
  obtain ⟨s', number, hstart, live⟩ := start_attach created
  have hask := performStore_of_ask link (by rw [hstart])
  rw [hstart] at hask
  generalize hsend : link.send Request.listing.call = sent at hask
  obtain ⟨l', reply⟩ := sent
  have hresume : (s'.resume (.listing number .fetch) reply).next =
      .finish ((reply.samples.mapError .transport).map fun _ => .done) := by
    rw [Store.resume, if_pos live]
    rfl
  rw [finishStore_of_finish _ hresume] at hask
  simp only [Link.obtains_of_send hsend]
  cases reply with
  | error e => exact .inr ⟨_, e, l', hask, by simp⟩
  | ok body =>
      cases hread : Wire.readListing body with
      | ok samples =>
          rw [Reply.samples, hread] at hask
          exact .inl ⟨_, l', hask, body, samples, ⟨rfl, rfl⟩, hread⟩
      | error fault =>
          rw [Reply.samples, hread] at hask
          refine .inr ⟨_, Reply.malformed fault, l', hask, ?_⟩
          rintro _ _ samples ⟨rfl, hbody⟩ hsamples
          cases hbody
          cases hread.symm.trans hsamples

/-- The source text of a sample comes in two hops over the link: the id that the name stands
for, and the content of that id. -/
def Loads (name : String) (l : Link) (code : String) (l'' : Link) : Prop :=
  ∃ body id l' body', l.Obtains (Request.idOf name).call body l' ∧
    Wire.resolveId body = some id ∧ l'.Obtains (Request.content id).call body' l'' ∧
    body'.stringMember? "code" = some code

theorem Loads.unique {name code code' : String} {l l₁ l₂ : Link} (h : Loads name l code l₁)
    (h' : Loads name l code' l₂) : code = code' ∧ l₁ = l₂ := by
  obtain ⟨body, id, m, content, hid, hresolve, hcontent, hcode⟩ := h
  obtain ⟨body', id', m', content', hid', hresolve', hcontent', hcode'⟩ := h'
  cases (Link.obtains_iff.mp hid).symm.trans (Link.obtains_iff.mp hid')
  cases hresolve.symm.trans hresolve'
  cases (Link.obtains_iff.mp hcontent).symm.trans (Link.obtains_iff.mp hcontent')
  cases hcode.symm.trans hcode'
  exact ⟨rfl, rfl⟩

theorem performStore_fetchContent {s : Store} (live : s.isLive = true) (name : String)
    (link : Link) :
    (∃ s' code link', performStore (.fetchContent name) s link = (s', .ok (.code code), link') ∧
        Loads name link code link') ∨
      ∃ s' e link', performStore (.fetchContent name) s link = (s', .error e, link') ∧
        (∀ d, e ≠ .validation d) ∧ ∀ code link'', ¬ Loads name link code link'' := by
  have hstart := Store.start_lookup_of_isLive name live
  have hask := performStore_of_ask link (by rw [hstart])
  rw [hstart] at hask
  generalize hsend : link.send (Request.idOf name).call = sent at hask
  obtain ⟨l', reply⟩ := sent
  simp only [Loads, Link.obtains_of_send hsend]
  by_cases hid : ∃ body id, reply = .ok body ∧ Wire.resolveId body = some id
  · obtain ⟨body, id, rfl, hid⟩ := hid
    have hlookup := Store.resume_lookup_of_resolved name live hid
    rw [finishStore_of_ask _ (by rw [hlookup]), hlookup] at hask
    generalize hsend' : l'.send (Request.content id).call = sent at hask
    obtain ⟨l'', reply'⟩ := sent
    obtain ⟨error, result, hresume, hconcludes⟩ := Store.resume_content live name id reply'
    rw [finishStore_of_finish _ (by rw [hresume])] at hask
    cases hconcludes with
    | loaded found =>
        exact .inl ⟨_, _, l'', hask, body, id, l', _, ⟨rfl, rfl⟩, hid,
          (Link.obtains_of_send hsend').mpr ⟨rfl, rfl⟩, found⟩
    | failed codeless same =>
        refine .inr ⟨_, _, l'', hask, by simp, ?_⟩
        rintro code link'' ⟨_, id', _, body', ⟨rfl, hbody⟩, hid', hobtains, hcode⟩
        cases hbody
        cases hid.symm.trans hid'
        have hreply := ((Link.obtains_of_send hsend').mp hobtains).2
        cases (codeless body' hreply).symm.trans hcode
  · have hnone : ∀ body, reply = .ok body → Wire.resolveId body = none := by
      intro body hbody
      cases hresolve : Wire.resolveId body with
      | none => rfl
      | some id => exact absurd ⟨body, id, hbody, hresolve⟩ hid
    have hlookup := Store.resume_lookup_of_unresolved name live hnone
    rw [finishStore_of_finish _ (by rw [hlookup])] at hask
    refine .inr ⟨_, _, l', hask, by simp, ?_⟩
    rintro code link'' ⟨body, id, _, _, ⟨-, hbody⟩, hid', -⟩
    exact hid ⟨body, id, hbody, hid'⟩

theorem performStore_addSample {s : Store} {name code : String} (h : s.Accepts name code)
    (link : Link) :
    (∃ s' link', performStore (.addSample name code) s link = (s', .ok .done, link') ∧
        ∃ body l', link.Obtains (Request.create ⟨name, code⟩).call body l') ∨
      ∃ s' e link', performStore (.addSample name code) s link =
          (s', .error (.transport e), link') ∧
        ∀ body l', ¬ link.Obtains (Request.create ⟨name, code⟩).call body l' := by
  have hstart := Store.start_of_accepts h
  have hask := performStore_of_ask link (by rw [hstart])
  rw [hstart] at hask
  generalize hsend : link.send (Request.create ⟨name, code⟩).call = sent at hask
  obtain ⟨l', reply⟩ := sent
  simp only [Link.obtains_of_send hsend]
  have live : Store.isLive { s with view := { s.view with adding := true } } = true := h.live
  cases reply with
  | ok body =>
      obtain ⟨s', hresume⟩ := Store.resume_creation_ok live body
      rw [finishStore_of_ask _ (by rw [hresume]),
        finishStore_of_finish _ (Store.next_resume_refresh _ _ _)] at hask
      exact .inl ⟨_, _, hask, body, l', rfl, rfl⟩
  | error e =>
      rw [finishStore_of_finish _ (by rw [Store.resume_creation_error live])] at hask
      exact .inr ⟨_, e, _, hask, by simp⟩

theorem performSession_execute (code : String) (link : Link) :
    (performSession (.execute code) {} link).2.1 =
      .ok (Session.verdict (link.send (Request.compile code).call).2) := by
  have hstart : Session.start (.execute code) {} =
      ⟨⟨⟨code, some code, .pending⟩, false⟩, true, .ask (.compile code) .output⟩ := rfl
  rw [performSession, hstart]
  simp only [Session.resume, Execution.resolve, ExecutionStatus.isPending, if_true,
    Bool.false_eq_true, if_false, Next.result, Session.outcome_output]

end CodeShelf.Cli
