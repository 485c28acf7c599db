import CodeShelf.Proofs.Wire.Listing

/-!
# The shapes of one listing

The same samples can be written as an array of records or as an object keyed by id, the
latter with or without the ids in the records, and any of them inside envelopes.  Every
shape reads back as the same list.  The one exception is a single sample whose id is the
key of the envelope: the object keyed by that id is an envelope itself.
-/

namespace CodeShelf

open Text

theorem SampleId.plain_of_strip_eq {id : SampleId} (nonempty : id.text ≠ "")
    (strip_eq : strip id.text = id.text) : id.Plain where
  strip_eq := strip_eq
  not_blank := by
    have htrim : trim id.text.toList = id.text.toList := by rw [← toList_strip, strip_eq]
    rw [isBlankText, htrim]
    simpa using nonempty

def Sample.toAnonymousJson (s : Sample) : Json :=
  Draft.toJson ⟨s.name, s.code⟩

namespace Wire

def keyed (write : Sample → Json) (samples : List Sample) : Json :=
  .ofPairs (samples.map fun s => (s.id.text, write s))

theorem readRecord_toAnonymousJson (s : Sample) :
    readRecord (some s.id) s.toAnonymousJson = .ok s := by
  simp [readRecord, Sample.toAnonymousJson, Draft.toJson, resolveIdMember, Json.stringMember?,
    Json.member?, Json.string?, List.lookup_cons]

theorem readListing_text_cons (key text : String) (m : String × Json)
    (rest : List (String × Json)) (samples : List Sample) :
    readListing (.obj ((key, .str text) :: m :: rest)) ≠ .ok samples := by
  simp [readListing, readMembers, readRecord]

theorem readListing_keyed_iff {write : Sample → Json} {samples : List Sample}
    (reads : ∀ s ∈ samples, readRecord (some s.id) (write s) = .ok s)
    (distinct : (samples.map (·.id)).Nodup)
    (closed : ∀ s, readListing (write s) ≠ .ok [s]) :
    readListing (keyed write samples) = .ok samples ↔
      ¬ ∃ s, samples = [s] ∧ s.id.text = envelopeKey := by
  constructor
  · rintro h ⟨s, rfl, hs⟩
    refine closed s ?_
    rw [← h, keyed, List.map_singleton, hs, Json.ofPairs_of_nodup (by simp), readListing_envelope]
  · intro h
    exact readListing_ofPairs reads distinct fun s hs hkey => h ⟨s, hs, hkey⟩

/-- Samples with different plain ids read back from every shape, in any number of envelopes;
the object keyed by id has the exception of a single sample with the key of the envelope. -/
theorem shapes_read_alike {samples : List Sample}
    (plain : ∀ s ∈ samples, s.id.text ≠ "" ∧ strip s.id.text = s.id.text)
    (distinct : (samples.map (·.id)).Nodup) (layers : Nat) :
    readListing (enveloped layers (.arr (samples.map Sample.toJson))) = .ok samples ∧
      (readListing (enveloped layers (keyed Sample.toJson samples)) = .ok samples ↔
        ¬ ∃ s, samples = [s] ∧ s.id.text = envelopeKey) ∧
      (readListing (enveloped layers (keyed Sample.toAnonymousJson samples)) = .ok samples ↔
        ¬ ∃ s, samples = [s] ∧ s.id.text = envelopeKey) := by
  have hplain : ∀ s ∈ samples, s.id.Plain := fun s hs =>
    SampleId.plain_of_strip_eq (plain s hs).1 (plain s hs).2
  simp only [readListing_enveloped]
  refine ⟨readListing_array hplain, ?_, ?_⟩
  · exact readListing_keyed_iff (fun s hs => readRecord_toJson (some s.id) (hplain s hs)) distinct
      fun s => readListing_text_cons _ _ _ _ _
  · exact readListing_keyed_iff (fun s _ => readRecord_toAnonymousJson s) distinct
      fun s => readListing_text_cons _ _ _ _ _

theorem shapes_read_alike_under_envelope_key :
    readListing (enveloped 2 (keyed Sample.toJson
        [⟨⟨"Data"⟩, "a", "1"⟩, ⟨⟨"7"⟩, " ", ""⟩])) =
          .ok [⟨⟨"Data"⟩, "a", "1"⟩, ⟨⟨"7"⟩, " ", ""⟩] ∧
      readListing (enveloped 2 (.arr ([⟨⟨"Data"⟩, "a", "1"⟩].map Sample.toJson))) =
        .ok [⟨⟨"Data"⟩, "a", "1"⟩] ∧
      readListing (enveloped 2 (keyed Sample.toJson [⟨⟨"Data"⟩, "a", "1"⟩])) ≠
        .ok [⟨⟨"Data"⟩, "a", "1"⟩] := by
  have hdata : ("Data" : String) ≠ "" ∧ strip "Data" = "Data" := by decide +kernel
  have hseven : ("7" : String) ≠ "" ∧ strip "7" = "7" := by decide +kernel
  have both := @shapes_read_alike [⟨⟨"Data"⟩, "a", "1"⟩, ⟨⟨"7"⟩, " ", ""⟩]
    (by simp [hdata, hseven]) (by decide) 2
  have alone := @shapes_read_alike [⟨⟨"Data"⟩, "a", "1"⟩] (by simp [hdata]) (by decide) 2
  refine ⟨both.2.1.mpr (by simp), alone.1, fun h => ?_⟩
  exact alone.2.1.mp h ⟨⟨⟨"Data"⟩, "a", "1"⟩, rfl, rfl⟩

end Wire

end CodeShelf
