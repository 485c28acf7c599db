import CodeShelf.Proofs.Text.Blank
import CodeShelf.Proofs.Wire.Listing
import CodeShelf.World.Memory

/-!
# The data of the service in memory

The service stores samples under the numbers one, two, three and so on, and never gives
a number twice.  So its ids are plain and differ from each other, a listing of it says
exactly which samples it has, in every shape, and a sample that is gone never comes back.
-/

namespace CodeShelf

open Text

/-! ## Ids -/

theorem isDigit_of_mem_natText {n : Nat} {c : Char} (h : c ∈ natText n) : c.isDigit = true :=
  Nat.isDigit_of_mem_toDigits (by decide) (by decide) h

namespace SampleId

theorem ofNat_injective : Function.Injective ofNat := by
  intro m n h
  have hdigits : natText m = natText n := by
    simpa [ofNat] using congrArg (fun id => id.text.toList) h
  have hvalue := congrArg (fun cs => Nat.ofDigitChars 10 cs 0) hdigits
  simpa [natText] using hvalue

theorem plain_ofNat (n : Nat) : (ofNat n).Plain := by
  have htrim : trim (natText n) = natText n :=
    trim_of_no_blank fun c hc => isBlank_of_isDigit (isDigit_of_mem_natText hc)
  constructor
  · simp [strip, ofNat, htrim]
  · have hne : natText n ≠ [] := Nat.toDigits_ne_nil
    simpa [isBlankText, ofNat, htrim] using hne

theorem text_ofNat_ne_envelopeKey (n : Nat) : (ofNat n).text ≠ Wire.envelopeKey := by
  intro h
  have hmem : 'D' ∈ natText n := by
    have htext : natText n = Wire.envelopeKey.toList := by rw [← h, ofNat, String.toList_ofList]
    rw [htext]
    decide
  exact absurd (isDigit_of_mem_natText hmem) (by decide)

end SampleId

namespace Memory

/-! ## What one step does to the data -/

/-- What can be done to the data at once: nothing, or a sample is stored under the next
id, or the sample of an id is removed.  The last argument lists what is removed. -/
inductive Changes (m m' : Memory) : List SampleId → Prop
  | nothing (samples : m'.samples = m.samples) (lastId : m'.lastId = m.lastId) :
      Changes m m' []
  | insertion (name code : String)
      (samples : m'.samples = m.samples ++ [⟨.ofNat (m.lastId + 1), name, code⟩])
      (lastId : m'.lastId = m.lastId + 1) : Changes m m' []
  | removal (id : SampleId) (samples : m'.samples = m.samples.filter fun s => s.id != id)
      (lastId : m'.lastId = m.lastId) : Changes m m' [id]

def Known (s : Sample) (m : Memory) : Prop :=
  ∃ n, n ≤ m.lastId ∧ s.id = .ofNat n

/-- The ids of the samples are numbers that were given already, in the order in which
they were given. -/
def IdsInOrder (m : Memory) : Prop :=
  ∃ ns : List Nat, m.samples.map (·.id) = ns.map .ofNat ∧ ns.Pairwise (· < ·) ∧
    ∀ n ∈ ns, n ≤ m.lastId

namespace Changes

variable {m m' : Memory} {gone : List SampleId}

theorem lastId_le (h : Changes m m' gone) : m.lastId ≤ m'.lastId := by
  cases h <;> omega

theorem known (h : Changes m m' gone) {s : Sample} (hs : Known s m) : Known s m' := by
  obtain ⟨n, hn, hid⟩ := hs
  exact ⟨n, Nat.le_trans hn h.lastId_le, hid⟩

theorem mem_of_known (h : Changes m m' gone) {s : Sample} (known : Known s m)
    (hs : s ∈ m'.samples) : s ∈ m.samples := by
  cases h with
  | nothing samples lastId => rwa [samples] at hs
  | insertion name code samples lastId =>
      rw [samples] at hs
      rcases List.mem_append.mp hs with hold | hnew
      · exact hold
      · obtain ⟨n, hn, hid⟩ := known
        rw [List.mem_singleton.mp hnew] at hid
        have heq := SampleId.ofNat_injective hid
        omega
  | removal id samples lastId =>
      rw [samples] at hs
      exact (List.mem_filter.mp hs).1

theorem mem_or_gone (h : Changes m m' gone) {s : Sample} (hs : s ∈ m.samples) :
    s.id ∈ gone ∨ s ∈ m'.samples := by
  cases h with
  | nothing samples lastId => exact .inr (by rwa [samples])
  | insertion name code samples lastId =>
      right
      rw [samples]
      exact List.mem_append_left _ hs
  | removal id samples lastId =>
      by_cases hid : s.id = id
      · exact .inl (by simp [hid])
      · right
        rw [samples]
        exact List.mem_filter.mpr ⟨hs, by simpa using hid⟩

theorem idsInOrder (h : Changes m m' gone) (ids : IdsInOrder m) : IdsInOrder m' := by
  obtain ⟨ns, hids, hlt, hle⟩ := ids
  cases h with
  | nothing samples lastId => exact ⟨ns, by rw [samples, hids], hlt, by rwa [lastId]⟩
  | insertion name code samples lastId =>
      refine ⟨ns ++ [m.lastId + 1], by rw [samples]; simp [hids], ?_, ?_⟩
      · rw [List.pairwise_append]
        refine ⟨hlt, List.pairwise_singleton _ _, ?_⟩
        intro n hn k hk
        have hnle := hle n hn
        rw [List.mem_singleton.mp hk]
        omega
      · intro n hn
        rw [lastId]
        rcases List.mem_append.mp hn with hold | hnew
        · exact Nat.le_succ_of_le (hle n hold)
        · exact Nat.le_of_eq (List.mem_singleton.mp hnew)
  | removal id samples lastId =>
      refine ⟨ns.filter fun n => SampleId.ofNat n != id, ?_, hlt.filter _, ?_⟩
      · have hfilter : (m.samples.filter fun s => s.id != id).map (·.id) =
            (m.samples.map (·.id)).filter (· != id) := by
          rw [List.filter_map]
          rfl
        rw [samples, hfilter, hids, List.filter_map]
        rfl
      · intro n hn
        rw [lastId]
        exact hle n (List.mem_filter.mp hn).1

end Changes

theorem changes_insert (name code : String) (m : Memory) :
    Changes m (m.insert name code).1 [] :=
  .insertion name code rfl rfl

theorem changes_answer (q : Question) (m : Memory) : Changes m (m.answer q).1 [] := by
  cases q with
  | listing => exact .nothing rfl rfl
  | idOf name =>
      simp only [answer]
      split <;> exact .nothing rfl rfl
  | hello => exact .nothing rfl rfl
  | content segment =>
      simp only [answer]
      split
      · exact .nothing rfl rfl
      · split <;> exact .nothing rfl rfl
  | create body =>
      simp only [answer]
      split
      · next name code _ _ => exact changes_insert name code m
      · exact .nothing rfl rfl
  | compile body =>
      simp only [answer]
      split
      · exact .nothing rfl rfl
      · split <;> exact .nothing rfl rfl

theorem exists_answer_eq (q : Question) (m : Memory) :
    ∃ samples lastId, (m.answer q).1 = { m with samples := samples, lastId := lastId } := by
  cases q with
  | listing => exact ⟨_, _, rfl⟩
  | idOf name =>
      simp only [answer]
      split <;> exact ⟨_, _, rfl⟩
  | hello => exact ⟨_, _, rfl⟩
  | content segment =>
      simp only [answer]
      split
      · exact ⟨_, _, rfl⟩
      · split <;> exact ⟨_, _, rfl⟩
  | create body =>
      simp only [answer]
      split <;> exact ⟨_, _, rfl⟩
  | compile body =>
      simp only [answer]
      split
      · exact ⟨_, _, rfl⟩
      · split <;> exact ⟨_, _, rfl⟩

theorem exists_passGate_eq (q : Question) (m : Memory) :
    ∃ samples lastId, (m.passGate q).1 = { m with samples := samples, lastId := lastId } := by
  simp only [passGate]
  split
  · exact ⟨_, _, rfl⟩
  · split
    · exact ⟨_, _, rfl⟩
    · exact exists_answer_eq q m

theorem exists_receive_eq (call : Call) (m : Memory) :
    ∃ samples lastId calls gates, (m.receive call).1 =
      { m with samples := samples, lastId := lastId, calls := calls, gates := gates } := by
  simp only [receive]
  split
  · exact ⟨_, _, _, _, rfl⟩
  · next q _ =>
      split
      · exact ⟨_, _, _, _, rfl⟩
      · obtain ⟨samples, lastId, h⟩ :=
          exists_passGate_eq q { m with calls := m.calls ++ [logged q.endpoint call] }
        exact ⟨_, _, _, _, h⟩

theorem changes_passGate (q : Question) (m : Memory) : Changes m (m.passGate q).1 [] := by
  simp only [passGate]
  split
  · exact .nothing rfl rfl
  · split
    · exact .nothing rfl rfl
    · exact changes_answer q m

theorem changes_receive (call : Call) (m : Memory) : Changes m (m.receive call).1 [] := by
  simp only [receive]
  split
  · exact .nothing rfl rfl
  · next q _ =>
      split
      · exact .nothing rfl rfl
      · -- The log of the call is no part of the data.
        cases changes_passGate q { m with calls := m.calls ++ [logged q.endpoint call] } with
        | nothing samples lastId => exact .nothing samples lastId
        | insertion name code samples lastId => exact .insertion name code samples lastId

namespace IdsInOrder

variable {m : Memory}

theorem known (ids : IdsInOrder m) {s : Sample} (hs : s ∈ m.samples) : Known s m := by
  obtain ⟨ns, hids, -, hle⟩ := ids
  have hmem : s.id ∈ ns.map .ofNat := hids ▸ List.mem_map_of_mem hs
  obtain ⟨n, hn, hid⟩ := List.mem_map.mp hmem
  exact ⟨n, hle n hn, hid.symm⟩

theorem nodup (ids : IdsInOrder m) : (m.samples.map (·.id)).Nodup := by
  obtain ⟨ns, hids, hlt, -⟩ := ids
  rw [hids]
  exact List.Nodup.map SampleId.ofNat_injective (hlt.imp Nat.ne_of_lt)

theorem eq_of_id_eq (ids : IdsInOrder m) {x s : Sample} (hx : x ∈ m.samples)
    (hs : s ∈ m.samples) (hid : x.id = s.id) : x = s :=
  List.inj_on_of_nodup_map ids.nodup hx hs hid

end IdsInOrder

theorem nodup_text_of_idsInOrder {m : Memory} (h : m.IdsInOrder) :
    (m.samples.map (·.id.text)).Nodup := by
  obtain ⟨ns, hids, hlt, -⟩ := h
  have htext : Function.Injective fun n => (SampleId.ofNat n).text := by
    intro a b hab
    exact SampleId.ofNat_injective (congrArg SampleId.mk hab)
  have hmap : m.samples.map (·.id.text) = ns.map fun n => (SampleId.ofNat n).text := by
    have h := congrArg (List.map SampleId.text) hids
    rwa [List.map_map, List.map_map] at h
  rw [hmap]
  exact List.Nodup.map htext (hlt.imp Nat.ne_of_lt)

theorem Known.plain {m : Memory} {s : Sample} (known : Known s m) : s.id.Plain := by
  obtain ⟨n, -, hid⟩ := known
  exact hid ▸ SampleId.plain_ofNat n

theorem exists_withSamples_eq (samples : List (String × String)) :
    ∃ stored lastId, withSamples samples = { samples := stored, lastId := lastId } := by
  induction samples using List.reverseRecOn with
  | nil => exact ⟨_, _, rfl⟩
  | append_singleton samples s ih =>
      obtain ⟨stored, lastId, h⟩ := ih
      rw [withSamples, List.foldl_append, ← withSamples, h]
      exact ⟨_, _, rfl⟩

theorem idsInOrder_withSamples (samples : List (String × String)) :
    IdsInOrder (withSamples samples) := by
  induction samples using List.reverseRecOn with
  | nil => exact ⟨[], rfl, .nil, by simp⟩
  | append_singleton samples s ih =>
      rw [withSamples, List.foldl_append]
      exact (changes_insert s.1 s.2 _).idsInOrder ih

/-! ## What answers say about the data -/

theorem readListing_listing {m : Memory} (h : IdsInOrder m) :
    Wire.readListing m.listing = .ok m.samples := by
  have hplain : ∀ s ∈ m.samples, s.id.Plain := fun s hs => (h.known hs).plain
  have hkey : ∀ s ∈ m.samples, s.id.text ≠ Wire.envelopeKey := by
    intro s hs
    obtain ⟨n, -, hn⟩ := h.known hs
    exact hn ▸ SampleId.text_ofNat_ne_envelopeKey n
  have hkeyed : Wire.readListing (keyedListing m.samples) = .ok m.samples :=
    Wire.readListing_keyed hplain h.nodup hkey
  rw [listing]
  split
  · exact Wire.readListing_array hplain
  · exact hkeyed
  · rw [Wire.readListing_envelope, hkeyed]

/-- What the progress of a request says about the service: a held call asks what the
request asks, a listing is the samples there are, and what was created is there. -/
def Reports (m : Memory) (request : Request) : Progress HeldCall → Prop
  | .held hold => route request.call = some hold.question
  | .answered reply =>
      (request = .listing → ∀ l, reply.samples = .ok l → l = m.samples) ∧
        ∀ draft body, request = .create draft → reply = .ok body →
          ∃ s ∈ m.samples, Known s m ∧ s.name = draft.name ∧ s.code = draft.code ∧
            body = s.toJson

theorem reports_error (m : Memory) (request : Request) (e : CallError) :
    Reports m request (.answered (.error e)) := by
  refine ⟨?_, ?_⟩
  · intro _ l hl
    cases hl
  · intro draft body _ hbody
    cases hbody

theorem reports_answer {m : Memory} {request : Request} {q : Question} (ids : IdsInOrder m)
    (hq : route request.call = some q) :
    Reports (m.answer q).1 request (.answered (m.answer q).2) := by
  refine ⟨?_, ?_⟩
  · rintro rfl l hl
    cases hq
    simp only [answer, Reply.samples, readListing_listing ids] at hl
    cases hl
    rfl
  · rintro draft body rfl hbody
    cases hq
    cases hbody
    exact ⟨⟨.ofNat (m.lastId + 1), draft.name, draft.code⟩, List.mem_append_right _ (by simp),
      ⟨m.lastId + 1, Nat.le_refl _, rfl⟩, rfl, rfl, rfl⟩

theorem reports_passGate {m : Memory} {request : Request} {q : Question} (ids : IdsInOrder m)
    (hq : route request.call = some q) :
    Reports (m.passGate q).1 request (m.passGate q).2 := by
  simp only [passGate]
  split
  · exact hq
  · split
    · exact reports_error _ _ _
    · exact reports_answer ids hq

theorem reports_receive {m : Memory} (request : Request) (ids : IdsInOrder m) :
    Reports (m.receive request.call).1 request (m.receive request.call).2 := by
  simp only [receive]
  split
  · exact reports_error _ _ _
  · next q hq =>
      split
      · exact hq
      · exact reports_passGate ids hq

end Memory

end CodeShelf
