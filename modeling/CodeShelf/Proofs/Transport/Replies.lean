import CodeShelf.Proofs.Transport.Http

/-!
# What replies are read as

Every reply that comes over a link is read in one of four ways.  The body of a success is the
value that it is JSON for, null if it is blank, and otherwise its own text; everything else is a
refusal with its status.  Only a reply whose body breaks off has no status, whichever it came
with.
-/

namespace CodeShelf

namespace Http

open Text

theorem readBody_of_blank {body : List Char} (h : ∀ c ∈ body, isBlank c = true) :
    readBody body = .null := by
  rw [readBody, trim_eq_nil_iff.mpr h]

theorem readBody_of_other {body : List Char} (solid : ∃ c ∈ body, isBlank c = false)
    (other : ∀ v, ¬ Json.TextOf v (trim body)) :
    readBody body = .str (String.ofList (trim body)) := by
  have hparse : Json.parse (trim body) = none := by
    rw [Option.eq_none_iff_forall_ne_some]
    exact fun v hv => other v (Json.parse_eq_some_iff.mp hv)
  rw [readBody]
  split
  · next hnil =>
      obtain ⟨c, hc, hsolid⟩ := solid
      simp [trim_eq_nil_iff.mp hnil c hc] at hsolid
  · rw [hparse, Option.getD_none]

theorem Response.read_of_failure {r : Response} (complete : r.isComplete = true)
    (failure : ¬ (200 ≤ r.status ∧ r.status < 300)) :
    r.read = .error ⟨some r.status, refusal r.status r.text⟩ := by
  rw [← isSuccess_iff, Bool.not_eq_true] at failure
  exact read_refusal complete failure

theorem Response.read_of_incomplete {r : Response} (incomplete : r.isComplete = false) :
    r.read = .error ⟨none, "error decoding response body"⟩ := by
  simp [read, incomplete]

/-- Whatever a peer replies to a call, the text of a success is read as the value that it is JSON
for, with blanks around it or without; so the compact text of a value whose numbers are integers
of 64 bits, whose objects have every key once and that nests no deeper than the reader follows is
read as that value.  A blank text is null, and any other text that is no JSON is itself, without
the blanks at its ends.  A complete reply that is no success is an error with its status,
whatever its text; a reply whose body breaks off is an error without one. -/
theorem replies_read_by_grammar {l : Link} {call : Call} (reaches : Reaches l.config call)
    {r : Response} {rest : List Response} (peer : l.peer = .serving (r :: rest)) :
    (r.isComplete = true → 200 ≤ r.status ∧ r.status < 300 →
      (∀ v before after, v.Legible Json.maxDepth → (∀ c ∈ before, isBlank c = true) →
        (∀ c ∈ after, isBlank c = true) → r.text = before ++ (v.compact ++ after) →
        (l.send call).2 = .ok v) ∧
      (∀ v, Json.TextOf v (trim r.text) → (l.send call).2 = .ok v) ∧
      ((∀ c ∈ r.text, isBlank c = true) → (l.send call).2 = .ok .null) ∧
      ((∃ c ∈ r.text, isBlank c = false) → (∀ v, ¬ Json.TextOf v (trim r.text)) →
        (l.send call).2 = .ok (.str (String.ofList (trim r.text))))) ∧
    (r.isComplete = true → ¬ (200 ≤ r.status ∧ r.status < 300) →
      (l.send call).2 = .error ⟨some r.status, refusal r.status r.text⟩) ∧
    (r.isComplete = false →
      (l.send call).2 = .error ⟨none, "error decoding response body"⟩) := by
  obtain ⟨hread, -, -⟩ := Link.send_of_reaches reaches peer
  rw [hread]
  refine ⟨?_, Response.read_of_failure, Response.read_of_incomplete⟩
  intro complete success
  have hsuccess : ∀ v, readBody r.text = v → r.read = .ok v := fun v hbody =>
    Response.read_eq_ok_iff.mpr ⟨complete, success, hbody⟩
  refine ⟨?_, ?_, ?_, ?_⟩
  · intro v before after legible front back htext
    have written := textOf_trim_of_compact legible front back
    rw [← htext] at written
    exact hsuccess v (readBody_of_textOf written)
  · exact fun v written => hsuccess v (readBody_of_textOf written)
  · exact fun blank => hsuccess _ (readBody_of_blank blank)
  · exact fun solid other => hsuccess _ (readBody_of_other solid other)

theorem replies_read_by_grammar_four :
    let link (r : Response) : Link := ⟨⟨"http://h"⟩, .serving [r], []⟩
    let value : Json := .obj [("b", .arr [.num (.int (2 ^ 64 - 1)), .null]), ("a", .str "\"\né")]
    let padded : Response := ⟨200, Utf8.encode (['\u00A0'] ++ (value.compact ++ ['\n'])), false⟩
    let blank : Response := ⟨201, Utf8.encode "\u2003\n".toList, false⟩
    let bare : Response := ⟨200, Utf8.encode " 01".toList, false⟩
    let refused : Response := ⟨404, Utf8.encode "[1]\n".toList, false⟩
    ((link padded).send Request.hello.call).2 = .ok value ∧
      ((link blank).send Request.hello.call).2 = .ok .null ∧
      ((link bare).send Request.hello.call).2 = .ok (.str "01") ∧
      ((link refused).send Request.hello.call).2 =
        .error ⟨some 404, "request failed (404 Not Found): [1]"⟩ := by
  intro link value padded blank bare refused
  have reaches : Reaches ⟨"http://h"⟩ Request.hello.call := by decide +kernel
  have legible : value.Legible Json.maxDepth := by
    refine .obj ?_ (by decide)
    simp only [List.forall_mem_cons]
    refine ⟨.arr ?_, .str _ _, List.forall_mem_nil _⟩
    simp only [List.forall_mem_cons]
    exact ⟨.int _ (by decide) (by decide), .null _, List.forall_mem_nil _⟩
  have hpadded : padded.text = ['\u00A0'] ++ (value.compact ++ ['\n']) :=
    text_of_encoded (by decide) _
  have hblank : blank.text = "\u2003\n".toList := text_of_encoded (by decide) _
  have hbare : bare.text = " 01".toList := text_of_encoded (by decide) _
  have hrefused : refused.text = "[1]\n".toList := text_of_encoded (by decide) _
  have other : ∀ v, ¬ Json.TextOf v (trim bare.text) := by
    intro v written
    have hnone : (Json.parse (trim bare.text)).isNone = true := by
      rw [hbare]
      decide +kernel
    rw [Json.parse_eq_some_iff.mpr written] at hnone
    cases hnone
  have reply (r : Response) := replies_read_by_grammar
    (show Reaches (link r).config Request.hello.call from reaches)
    (show (link r).peer = .serving [r] from rfl)
  refine ⟨?_, ?_, ?_, ?_⟩
  · obtain ⟨hcompact, -⟩ := (reply padded).1 rfl (by decide)
    have front : ∀ c ∈ ['\u00A0'], isBlank c = true := List.all_eq_true.mp (by decide)
    have back : ∀ c ∈ ['\n'], isBlank c = true := List.all_eq_true.mp (by decide)
    exact hcompact value _ _ legible front back hpadded
  · obtain ⟨-, -, hnull, -⟩ := (reply blank).1 rfl (by decide)
    have all : ∀ c ∈ "\u2003\n".toList, isBlank c = true := List.all_eq_true.mp (by decide +kernel)
    exact hnull (hblank ▸ all)
  · obtain ⟨-, -, -, hother⟩ := (reply bare).1 rfl (by decide)
    have htrim : String.ofList (trim " 01".toList) = "01" := by decide +kernel
    have solid : ∃ c ∈ bare.text, isBlank c = false := by
      rw [hbare]
      exact ⟨'0', by decide, by decide⟩
    rw [hother solid other, hbare, htrim]
  · have hcause : refusal 404 "[1]\n".toList = "request failed (404 Not Found): [1]" := by
      decide +kernel
    rw [(reply refused).2.1 rfl (by decide), hrefused, ← hcause]

/-- A refusal that breaks off comes without the status that it had. -/
theorem truncated_refusal_loses_status :
    let link : Link := ⟨⟨"http://h"⟩, .serving [⟨404, Utf8.encode "gone".toList, true⟩], []⟩
    ¬ (200 ≤ 404 ∧ 404 < 300) ∧
      (link.send Request.hello.call).2 = .error ⟨none, "error decoding response body"⟩ ∧
      ¬ ∃ cause, (link.send Request.hello.call).2 = .error ⟨some 404, cause⟩ := by
  intro link
  have reaches : Reaches link.config Request.hello.call := by decide +kernel
  obtain ⟨hread, -, -⟩ := Link.send_of_reaches reaches (show link.peer = _ from rfl)
  rw [hread, Response.read_of_incomplete rfl]
  exact ⟨by decide, rfl, by rintro ⟨cause, ⟨⟩⟩⟩

end Http

end CodeShelf
