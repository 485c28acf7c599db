import CodeShelf.Proofs.Json.RoundTrip
import CodeShelf.Proofs.Text.Blank
import CodeShelf.Proofs.Text.Utf8
import CodeShelf.Transport.Http

/-!
# Answers over HTTP

The reading of an answer gives a value back whose compact text is the body of a success,
and keeps the status of everything else.  A call that reaches a peer is answered with the
next answer of its list, and brings a body back exactly if that answer is a success.
-/

namespace CodeShelf

namespace Http

open Text

theorem readBody_of_parse {v : Json} {body : List Char} (h : Json.parse (trim body) = some v) :
    readBody body = v := by
  rw [readBody]
  split
  · next hnil => rw [hnil] at h; cases h
  · rw [h, Option.getD_some]

theorem readBody_of_textOf {v : Json} {body : List Char} (h : Json.TextOf v (trim body)) :
    readBody body = v :=
  readBody_of_parse (Json.parse_eq_some_iff.mpr h)

theorem textOf_trim_of_compact {v : Json} (h : v.Legible Json.maxDepth)
    {before after : List Char} (front : ∀ c ∈ before, isBlank c = true)
    (back : ∀ c ∈ after, isBlank c = true) :
    Json.TextOf v (trim (before ++ (v.compact ++ after))) := by
  obtain ⟨first, more, hfirst, first_solid, -⟩ := Json.exists_compact_cons h
  obtain ⟨start, last, hlast, last_solid⟩ := Json.exists_compact_append h
  rw [trim_append front back, trim_eq_self hfirst first_solid hlast last_solid]
  exact .bare (Json.valueText_compact h)

theorem readBody_compact {v : Json} (h : v.Legible Json.maxDepth) : readBody v.compact = v := by
  have hnil : ∀ c ∈ ([] : List Char), isBlank c = true := List.forall_mem_nil _
  have written := textOf_trim_of_compact h hnil hnil
  rw [List.append_nil, List.nil_append] at written
  exact readBody_of_textOf written

namespace Response

def success (v : Json) : Response where
  status := 200
  body := Utf8.encode v.compact

theorem read_success {v : Json} (h : v.Legible Json.maxDepth) : (success v).read = .ok v := by
  have hstatus : isSuccess 200 = true := rfl
  have hbody : isBodiless 200 = false := rfl
  simp [read, isComplete, text, success, hstatus, hbody, readBody_compact h]

theorem read_refusal {r : Response} (complete : r.isComplete = true)
    (h : isSuccess r.status = false) : r.read = .error ⟨some r.status, refusal r.status r.text⟩ := by
  simp [read, complete, h]

end Response

def Reaches (config : Config) (call : Call) : Prop :=
  (callUrl? config call).any canName = true

instance (config : Config) (call : Call) : Decidable (Reaches config call) :=
  inferInstanceAs (Decidable (_ = true))

theorem Link.send_of_reaches {l : Link} {call : Call} (h : Reaches l.config call)
    {r : Response} {rest : List Response} (peer : l.peer = .serving (r :: rest)) :
    (l.send call).2 = r.read ∧ (l.send call).1.config = l.config ∧
      (l.send call).1.peer = .serving rest := by
  obtain ⟨url, hurl, hname⟩ := (Option.any_eq_true ..).mp h
  simp [send, hurl, hname, peer]

/-! ## Calls that succeed -/

theorem text_of_encoded {status : Nat} (h : isBodiless status = false) (body : List Char) :
    (Response.mk status (Utf8.encode body) false).text = body := by
  simp [Response.text, h]

/-- A call over a link brings a body back: it names a URL that a request can carry, and the
next answer of the peer is complete and has a status of the 2xx class. -/
inductive Link.Obtains (l : Link) (call : Call) : Json → Link → Prop
  | intro {url : Url.Web} {r : Response} {rest : List Response}
      (url_eq : callUrl? l.config call = some url) (named : canName url = true)
      (peer : l.peer = .serving (r :: rest)) (complete : r.isComplete = true)
      (success : 200 ≤ r.status ∧ r.status < 300) :
      Obtains l call (readBody r.text)
        { l with peer := .serving rest, sent := l.sent ++ [requestOf call url] }

theorem isSuccess_iff {status : Nat} : isSuccess status = true ↔ 200 ≤ status ∧ status < 300 := by
  simp [isSuccess]

theorem Response.read_eq_ok_iff {r : Response} {body : Json} :
    r.read = .ok body ↔
      r.isComplete = true ∧ (200 ≤ r.status ∧ r.status < 300) ∧ readBody r.text = body := by
  rw [Response.read, ← isSuccess_iff]
  cases r.isComplete with
  | true => cases isSuccess r.status <;> simp
  | false => simp

theorem Link.obtains_iff {l l' : Link} {call : Call} {body : Json} :
    l.Obtains call body l' ↔ l.send call = (l', .ok body) := by
  constructor
  · rintro ⟨url_eq, named, peer, complete, success⟩
    have hread := Response.read_eq_ok_iff.mpr ⟨complete, success, rfl⟩
    simp [Link.send, url_eq, named, peer, hread]
  · intro h
    rw [Link.send] at h
    cases hurl : callUrl? l.config call with
    | none => simp [hurl] at h
    | some url =>
        cases hnamed : canName url with
        | false => simp [hurl, hnamed] at h
        | true =>
            cases hpeer : l.peer with
            | absent => simp [hurl, hnamed, hpeer] at h
            | serving responses =>
                simp only [hurl, hnamed, hpeer, Bool.not_true, Bool.false_eq_true, if_false,
                  Prod.mk.injEq] at h
                obtain ⟨rfl, hread⟩ := h
                obtain ⟨complete, success, rfl⟩ := Response.read_eq_ok_iff.mp hread
                cases responses with
                | nil => simp [exhausted] at success
                | cons r rest => exact .intro hurl hnamed hpeer complete success

theorem Link.obtains_of_send {l l' : Link} {call : Call} {reply : Reply}
    (h : l.send call = (l', reply)) {body : Json} {l'' : Link} :
    l.Obtains call body l'' ↔ l' = l'' ∧ reply = .ok body := by
  rw [Link.obtains_iff, h, Prod.mk.injEq]

end Http

end CodeShelf
