import CodeShelf.Proofs.Text.Percent
import CodeShelf.Transport.Memory

/-!
# Where content requests go

The path of a content has its id as the last segment.  No two ids have the same path, so a
request for a content goes to the content of exactly its id, unless the id is empty or the
path is that of another endpoint.
-/

namespace CodeShelf

open Text

namespace Path

theorem toList_content (id : SampleId) :
    (content id).toList = contentStart.toList ++ Percent.segment id.text.toList := by
  rw [content, String.toList_append, String.toList_ofList]

theorem content_injective : Function.Injective content := by
  intro id id' h
  have hchars := congrArg String.toList h
  rw [toList_content, toList_content] at hchars
  have htexts := Percent.segment_injective (List.append_cancel_left hchars)
  cases id
  cases id'
  exact congrArg SampleId.mk (String.toList_injective htexts)

end Path

/-- Whether an id has a path of its own: it is not empty, and its path is not that of another
endpoint. -/
def SampleId.Addressable (id : SampleId) : Prop :=
  id.text ≠ "" ∧ id.text ≠ "db_content" ∧ id.text ≠ "id_by_name" ∧ id.text ≠ "hello"

namespace Memory

theorem contentSegment?_content {id : SampleId} (h : id.text ≠ "") :
    contentSegment? (Path.content id) = some (String.ofList (Percent.segment id.text.toList)) := by
  have hsegment : Percent.segment id.text.toList ≠ [] := by
    intro hnil
    have hempty : id.text.toList = "".toList := Percent.segment_injective hnil
    exact h (String.toList_injective hempty)
  rw [contentSegment?, Path.toList_content, if_pos (by simp), List.drop_left, if_neg]
  simpa [hsegment] using Percent.slash_not_mem_segment id.text.toList

theorem route_content {id : SampleId} (h : id.Addressable) :
    route (Request.content id).call =
      some (.content (String.ofList (Percent.segment id.text.toList))) := by
  obtain ⟨hempty, hsamples, hidByName, hhello⟩ := h
  have hother : ∀ name, id.text ≠ name → Path.content id ≠ Path.content ⟨name⟩ := by
    intro name hne hpath
    exact hne (congrArg SampleId.text (Path.content_injective hpath))
  have hsamples' : Path.content id ≠ Path.samples := hother "db_content" hsamples
  have hidByName' : Path.content id ≠ Path.idByName := hother "id_by_name" hidByName
  have hhello' : Path.content id ≠ Path.hello := hother "hello" hhello
  rw [Request.call, route, if_neg hsamples', if_neg hidByName', if_neg hhello',
    contentSegment?_content hempty, Option.map_some]

theorem answer_content (id : SampleId) (m : Memory) :
    m.answer (.content (String.ofList (Percent.segment id.text.toList))) =
      match m.samples.find? (·.id == id) with
      | some s => (m, .ok s.toJson)
      | none => (m, notFound "sample") := by
  have hfind : (fun s : Sample => s.id.text == id.text) = fun s => s.id == id := by
    funext s
    rw [Bool.eq_iff_iff, beq_iff_eq, beq_iff_eq]
    constructor
    · intro htext
      cases hs : s.id
      cases id
      rw [hs] at htext
      exact congrArg SampleId.mk htext
    · exact congrArg SampleId.text
  rw [answer, String.toList_ofList, Percent.decode_segment, Utf8.decode?_encode]
  cases hs : m.samples.find? (·.id == id) with
  | some s => simp only [String.ofList_toList, hfind, hs]
  | none => simp only [String.ofList_toList, hfind, hs]

end Memory

end CodeShelf
