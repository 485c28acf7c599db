import CodeShelf.Wire
import Mathlib.Data.List.Induction
import Mathlib.Data.List.Nodup

/-!
# Listings that were written from samples

A list of samples can be written as an array of records or as an object keyed by id.
Reading gives the samples back in their order if the ids are plain, that is, neither
empty nor with blanks at their ends, and differ from each other.
-/

namespace CodeShelf

open Text

/-- An id that reading does not change. -/
structure SampleId.Plain (id : SampleId) : Prop where
  strip_eq : strip id.text = id.text
  not_blank : isBlankText id.text = false

namespace Json

theorem put_of_not_mem {key : String} {v : Json} {members : List (String × Json)}
    (h : key ∉ members.map (·.1)) : put key v members = members ++ [(key, v)] := by
  induction members with
  | nil => rfl
  | cons m rest ih =>
      obtain ⟨k, w⟩ := m
      simp only [List.map_cons, List.mem_cons, not_or] at h
      rw [put, if_neg (Ne.symm h.1), ih h.2, List.cons_append]

theorem ofPairs_of_nodup {pairs : List (String × Json)} (h : (pairs.map (·.1)).Nodup) :
    ofPairs pairs = obj pairs := by
  have hfold : pairs.foldl (fun members p => put p.1 p.2 members) [] = pairs := by
    induction pairs using List.reverseRecOn with
    | nil => rfl
    | append_singleton pairs p ih =>
        rw [List.map_append, List.nodup_append'] at h
        rw [List.foldl_append, ih h.1]
        exact put_of_not_mem fun hmem => h.2.2 hmem (by simp)
  rw [ofPairs, hfold]

end Json

namespace Wire

theorem resolveId_of_plain {id : SampleId} (h : id.Plain) :
    resolveId (.str id.text) = some id := by
  rw [resolveId, if_neg (by simp [h.not_blank]), h.strip_eq]

theorem readRecord_toJson (key : Option SampleId) {s : Sample} (h : s.id.Plain) :
    readRecord key s.toJson = .ok s := by
  simp [readRecord, Sample.toJson, resolveIdMember, resolveId_of_plain h, Json.stringMember?,
    Json.member?, Json.string?, List.lookup_cons]

theorem readItems_toJson {samples : List Sample} (h : ∀ s ∈ samples, s.id.Plain) (index : Nat) :
    readItems index (samples.map Sample.toJson) = .ok samples := by
  induction samples generalizing index with
  | nil => rfl
  | cons s rest ih =>
      rw [List.map_cons, readItems, readRecord_toJson none (h s List.mem_cons_self)]
      simp only
      rw [ih (fun t ht => h t (List.mem_cons_of_mem s ht))]
      rfl

theorem readMembers_of_reads {write : Sample → Json} {samples : List Sample}
    (reads : ∀ s ∈ samples, readRecord (some s.id) (write s) = .ok s) :
    readMembers (samples.map fun s => (s.id.text, write s)) = .ok samples := by
  induction samples with
  | nil => rfl
  | cons s rest ih =>
      rw [List.map_cons, readMembers, reads s List.mem_cons_self]
      simp only
      rw [ih fun t ht => reads t (List.mem_cons_of_mem s ht)]
      rfl

theorem readListing_obj {members : List (String × Json)}
    (h : ∀ v, members ≠ [(envelopeKey, v)]) :
    readListing (.obj members) = readMembers members := by
  match members with
  | [] => simp [readListing]
  | [(key, v)] =>
      rw [readListing, if_neg]
      intro hkey
      exact h v (by rw [hkey])
  | a :: b :: rest => simp [readListing]

theorem readListing_envelope (v : Json) :
    readListing (.obj [(envelopeKey, v)]) = readListing v := by
  rw [readListing, if_pos rfl]

def enveloped : Nat → Json → Json
  | 0, v => v
  | layers + 1, v => .obj [(envelopeKey, enveloped layers v)]

theorem readListing_enveloped (layers : Nat) (v : Json) :
    readListing (enveloped layers v) = readListing v := by
  induction layers with
  | zero => rfl
  | succ layers ih => rw [enveloped, readListing_envelope, ih]

theorem readListing_array {samples : List Sample} (h : ∀ s ∈ samples, s.id.Plain) :
    readListing (.arr (samples.map Sample.toJson)) = .ok samples := by
  rw [readListing, readItems_toJson h]

theorem readListing_ofPairs {write : Sample → Json} {samples : List Sample}
    (reads : ∀ s ∈ samples, readRecord (some s.id) (write s) = .ok s)
    (distinct : (samples.map (·.id)).Nodup)
    (key : ∀ s, samples = [s] → s.id.text ≠ envelopeKey) :
    readListing (.ofPairs (samples.map fun s => (s.id.text, write s))) = .ok samples := by
  have hkeys : ((samples.map fun s => (s.id.text, write s)).map (·.1)).Nodup := by
    have htext : Function.Injective SampleId.text := fun a b h => by
      cases a
      cases b
      exact congrArg SampleId.mk h
    have h := distinct.map htext
    rw [List.map_map] at h ⊢
    exact h
  rw [Json.ofPairs_of_nodup hkeys, readListing_obj, readMembers_of_reads reads]
  intro v hv
  obtain ⟨s, rfl, hs⟩ := List.map_eq_singleton_iff.mp hv
  exact key s rfl (congrArg (·.1) hs)

theorem readListing_keyed {samples : List Sample} (plain : ∀ s ∈ samples, s.id.Plain)
    (distinct : (samples.map (·.id)).Nodup)
    (key : ∀ s ∈ samples, s.id.text ≠ envelopeKey) :
    readListing (.ofPairs (samples.map fun s => (s.id.text, s.toJson))) = .ok samples :=
  readListing_ofPairs (fun s hs => readRecord_toJson (some s.id) (plain s hs)) distinct
    fun s hs => key s (by simp [hs])

end Wire

end CodeShelf
