import CodeShelf.Proofs.Transport.Http
import CodeShelf.Proofs.Transport.Routing
import CodeShelf.Proofs.Url.Endpoint

/-!
# Targets of content requests

A request for a content names the address of the service, `code` and the escaped id.  The text of
the two is read as a URL before it is sent, and reading a URL takes segments of dots away.  The
escapes do not cover dots, so the ids of one dot and of two dots do not come through: the one
leaves `code` and an empty segment, the other nothing but an empty segment.  Every other id is
the last segment of what is sent.
-/

namespace CodeShelf

open Text

namespace Url

/-- The segments that `code` and a segment made of the text leave at the end of a path. -/
def contentEnd (cs : List Char) : List (List Char) :=
  if cs = ['.', '.'] then [[]]
  else if cs = ['.'] then ["code".toList, []]
  else ["code".toList, Percent.segment cs]

theorem resolveSegments_content (resolved : List (List Char)) (cs : List Char) :
    (resolveSegments resolved ["code".toList, Percent.segment cs]).reverse =
      resolved.reverse ++ contentEnd cs := by
  have hcode : ∀ rest, resolveSegments resolved ("code".toList :: rest) =
      resolveSegments ("code".toList :: resolved) rest := fun rest => rfl
  have hshorten : shorten ("code".toList :: resolved) = resolved := rfl
  rw [hcode, resolveSegments]
  simp only [isDoubleDot_segment, isSingleDot_segment, encode_segment, hshorten,
    List.isEmpty_nil, if_true, resolveSegments]
  unfold contentEnd
  split
  · rw [List.reverse_cons]
  · split
    · simp only [List.reverse_cons, List.append_assoc, List.singleton_append]
    · simp only [List.reverse_cons, List.append_assoc, List.singleton_append]

theorem splitOn_append_pathText {segments : List (List Char)} (h : ∀ s ∈ segments, '/' ∉ s)
    (cs : List Char) :
    (cs ++ pathText segments).splitOn '/' = cs.splitOn '/' ++ segments := by
  induction segments generalizing cs with
  | nil => simp [pathText]
  | cons s segments ih =>
      rw [List.forall_mem_cons] at h
      have hsplit : (cs ++ '/' :: (s ++ pathText segments)).splitOn '/' =
          cs.splitOn '/' ++ (s ++ pathText segments).splitOn '/' := by
        simp only [List.splitOn_eq_splitOnP]
        exact List.splitOnP_append_cons cs _ rfl
      rw [pathText, List.flatMap_cons, List.cons_append, ← pathText, hsplit, ih h.2,
        List.splitOn_eq_singleton h.1, List.singleton_append]

theorem slash_not_mem_contentEnd (cs : List Char) : ∀ s ∈ contentEnd cs, '/' ∉ s := by
  have hcode : '/' ∉ "code".toList := by decide
  have hsegment := Percent.slash_not_mem_segment cs
  unfold contentEnd
  split
  · simp
  · split
    · exact List.forall_mem_cons.mpr ⟨hcode, by simp⟩
    · exact List.forall_mem_cons.mpr ⟨hcode, by simpa using hsegment⟩

theorem segment_suffix_contentEnd_iff {cs : List Char} (named : cs ≠ [])
    (before : List (List Char)) :
    ["code".toList, Percent.segment cs] <:+ before ++ contentEnd cs ↔
      cs ≠ ['.'] ∧ cs ≠ ['.', '.'] := by
  have hsegment : Percent.segment cs ≠ [] := fun hnil => named (Percent.segment_injective hnil)
  -- The last segments have to be the same.
  have hlast : ∀ before', ¬ ["code".toList, Percent.segment cs] <:+ before' ++ [[]] := by
    rintro before' ⟨front, hfront⟩
    have heq := congrArg List.getLast? hfront
    simp [hsegment] at heq
  unfold contentEnd
  split
  · next hdots => simpa [hdots] using hlast before
  · next hdots =>
      split
      · next hdot =>
          have hend : before ++ ["code".toList, []] = before ++ ["code".toList] ++ [[]] := by simp
          rw [hend]
          simpa [hdot] using hlast (before ++ ["code".toList])
      · next hdot => simp [hdot, hdots]

theorem not_mem_pathText {c : Char} (hslash : c ≠ '/') {segments : List (List Char)}
    (h : ∀ s ∈ segments, c ∉ s) : c ∉ pathText segments := by
  unfold pathText
  rw [List.mem_flatMap]
  rintro ⟨s, hs, hc⟩
  rcases List.mem_cons.mp hc with heq | hc
  · exact hslash heq
  · exact h s hs hc

theorem target_of_contentEnd {u : Web} {cs : List Char} {front : List (List Char)}
    (named : cs ≠ []) (path : u.path = front ++ contentEnd cs) (query : u.query = none)
    (plain : ∀ s ∈ u.path, '?' ∉ s) :
    '?' ∉ u.target ∧ (["code".toList, Percent.segment cs] <:+ u.target.splitOn '/' ↔
      cs ≠ ['.'] ∧ cs ≠ ['.', '.']) := by
  have htarget : u.target = pathText u.path := by
    rw [Web.target, query]
    exact List.append_nil _
  constructor
  · rw [htarget]
    exact not_mem_pathText (by decide) plain
  · have happend : pathText (front ++ contentEnd cs) =
        pathText front ++ pathText (contentEnd cs) := List.flatMap_append
    rw [htarget, path, happend, splitOn_append_pathText (slash_not_mem_contentEnd cs)]
    exact segment_suffix_contentEnd_iff named _

theorem plain_of_isPathLiteral {c : Char} (h : isPathLiteral c = true) :
    isOutside c = false ∧ c ≠ '?' ∧ c ≠ '#' := by
  refine ⟨?_, ?_, ?_⟩
  · simp only [isPathLiteral, isVisible, Bool.and_eq_true, decide_eq_true_eq] at h
    rw [isOutside, decide_eq_false_iff_not]
    omega
  · rintro rfl
    exact absurd h (by decide)
  · rintro rfl
    exact absurd h (by decide)

end Url

namespace Config

theorem endpoint_content (config : Config) (id : SampleId) :
    (config.endpoint (Path.content id)).toList =
      config.baseUrl.toList ++ '/' :: ("code".toList ++ '/' :: Percent.segment id.text.toList) := by
  have hstart : Path.contentStart.toList = '/' :: ("code".toList ++ ['/']) := by decide
  rw [endpoint, Path.toList_content, hstart]
  simp

theorem exists_parse_of_ofText {text : String} {config : Config} (h : ofText text = .ok config) :
    ∃ url, Url.parse (trim text.toList) = .ok url ∧
      (Url.defaultPort? url.scheme).isSome = true ∧
      config.baseUrl.toList = dropEndWhile (· == '/') (trim text.toList) := by
  unfold ofText at h
  cases hparse : Url.parse (trim text.toList) with
  | error e => simp [hparse] at h
  | ok url =>
      refine ⟨url, rfl, ?_⟩
      simp only [hparse] at h
      split at h
      · next hscheme =>
          rw [Except.ok.injEq] at h
          rw [← h]
          refine ⟨?_, String.toList_ofList⟩
          rcases hscheme with hhttp | hhttps
          · rw [hhttp]
            decide
          · rw [hhttps]
            decide
      · cases h

theorem exists_parse_endpoint_content {text : String} {config : Config}
    (accepted : ofText text = .ok config) (query : '?' ∉ text.toList)
    (fragment : '#' ∉ text.toList) :
    ∃ (read : Except UrlError Url.Web) (front : List (List Char)),
      (∀ id, Url.parse (config.endpoint (Path.content id)).toList = read.map fun u =>
        .web { u with
          path := front ++ Url.contentEnd id.text.toList
          query := none
          fragment := none }) ∧
      ((∀ c ∈ (trim text.toList).getLast?, Url.isOutside c = false) → ∃ u, read = .ok u) := by
  obtain ⟨url, hparse, hweb, hbase⟩ := exists_parse_of_ofText accepted
  obtain ⟨slashes, htrim, hslashes⟩ := exists_dropEndWhile_append (· == '/') (trim text.toList)
  rw [← hbase] at htrim
  have hmem : ∀ c ∈ config.baseUrl.toList, c ∈ text.toList := by
    intro c hc
    apply mem_of_mem_trim
    rw [htrim]
    exact List.mem_append_left slashes hc
  rw [htrim] at hparse ⊢
  obtain ⟨read, resolved, hread, hends⟩ := Url.exists_parse_append
    (fun c hc => beq_iff_eq.mp (hslashes c hc)) (fun hc => query (hmem _ hc))
    (fun hc => fragment (hmem _ hc)) hparse hweb
  refine ⟨read, resolved.reverse, ?_, hends⟩
  intro id
  have hplain : ∀ c ∈ "code".toList ++ '/' :: Percent.segment id.text.toList,
      Url.isOutside c = false ∧ c ≠ '?' ∧ c ≠ '#' := by
    intro c hc
    apply Url.plain_of_isPathLiteral
    rcases List.mem_append.mp hc with hcode | hc
    · have hliteral : "code".toList.all Url.isPathLiteral = true := by decide
      exact List.all_eq_true.mp hliteral c hcode
    · rcases List.mem_cons.mp hc with rfl | hsegment
      · decide
      · exact (Url.of_mem_segment hsegment).1
  have hsplit : ("code".toList ++ '/' :: Percent.segment id.text.toList).splitOnP Url.isSlash =
      ["code".toList, Percent.segment id.text.toList] := by
    rw [List.splitOnP_append_cons _ _ (by decide), Url.splitOnP_segment]
    rfl
  rw [endpoint_content, hread _ hplain, hsplit, Url.resolveSegments_content]

end Config

namespace Http

theorem addPairs_nil {u : Url.Web} (h : u.query = none) : u.addPairs [] = u := by
  cases u
  cases h
  rfl

theorem callUrl?_content {config : Config} {id : SampleId} {read : Except UrlError Url.Web}
    {f : Url.Web → Url.Web} (query : ∀ u, (f u).query = none)
    (h : Url.parse (config.endpoint (Path.content id)).toList = read.map fun u => .web (f u)) :
    callUrl? config (Request.content id).call = read.toOption.map f := by
  simp only [Request.call, callUrl?, h]
  cases read with
  | error e => rfl
  | ok u => exact congrArg some (addPairs_nil (query u))

theorem Link.sent_send (l : Link) (call : Call) :
    (l.send call).1.sent = l.sent ∨
      ∃ url, callUrl? l.config call = some url ∧
        (l.send call).1.sent = l.sent ++ [requestOf call url] := by
  unfold send
  cases callUrl? l.config call with
  | none => exact .inl rfl
  | some url =>
      by_cases hname : canName url = true
      · cases hpeer : l.peer with
        | absent => simp [hname]
        | serving responses => simp [hname]
      · simp [hname]

theorem Link.sent_send_of_serving {l : Link} {call : Call} {url : Url.Web}
    {responses : List Response} (hurl : callUrl? l.config call = some url)
    (hname : canName url = true) (peer : l.peer = .serving responses) :
    (l.send call).1.sent = l.sent ++ [requestOf call url] := by
  simp [send, hurl, hname, peer]

/-- The request for the content of an id ends in `code` and the escaped id, and has no query,
whatever the address, unless the id is one dot or two.  Such a request is made if the address
does not end in a control character. -/
theorem content_ends_target_unless_dots {text : String} {config : Config}
    (accepted : Config.ofText text = .ok config) (query : '?' ∉ text.toList)
    (fragment : '#' ∉ text.toList) {id : SampleId} (named : id.text ≠ "") :
    (∀ (l : Link) (r : Request), l.config = config →
      (l.send (Request.content id).call).1.sent = l.sent ++ [r] →
        '?' ∉ r.target.toList ∧
        (["code".toList, Percent.segment id.text.toList] <:+ r.target.toList.splitOn '/' ↔
          id.text ≠ "." ∧ id.text ≠ "..")) ∧
    ((∀ c ∈ (trim text.toList).getLast?, Url.isOutside c = false) →
      ∃ url, callUrl? config (Request.content id).call = some url ∧
        (canName url = true → ∀ (l : Link) (responses : List Response), l.config = config →
          l.peer = .serving responses →
            (l.send (Request.content id).call).1.sent =
              l.sent ++ [requestOf (Request.content id).call url])) := by
  obtain ⟨read, front, hparse, hends⟩ :=
    Config.exists_parse_endpoint_content accepted query fragment
  have hurl := callUrl?_content (fun u => rfl) (hparse id)
  constructor
  · intro l r address sent
    obtain hnone | ⟨url, hcall, hsent⟩ := l.sent_send (Request.content id).call
    · rw [hnone] at sent
      simp at sent
    · rw [hsent, List.append_cancel_left_eq, List.cons.injEq] at sent
      obtain ⟨rfl, -⟩ := sent
      rw [address, hurl, Option.map_eq_some_iff] at hcall
      obtain ⟨u, hread, rfl⟩ := hcall
      cases read with
      | error e => cases hread
      | ok v =>
          cases hread
          have hnamed : id.text.toList ≠ [] := by simpa using named
          have htarget := Url.target_of_contentEnd hnamed rfl rfl
            (Url.question_not_mem_path (hparse id))
          simpa [requestOf, ← String.toList_inj] using htarget
  · intro hend
    obtain ⟨u, rfl⟩ := hends hend
    refine ⟨_, hurl, ?_⟩
    intro hname l responses address peer
    exact Link.sent_send_of_serving (address ▸ hurl) hname peer

theorem content_ends_target_unless_dots_reserved :
    Config.ofText "http://127.0.0.1:8000/shelf/" = .ok ⟨"http://127.0.0.1:8000/shelf"⟩ ∧
      (Link.send (Request.content ⟨"a/b?"⟩).call
        ⟨⟨"http://127.0.0.1:8000/shelf"⟩, .serving [], []⟩).1.sent =
          [⟨.get, "/shelf/code/a%2Fb%3F", none⟩] ∧
      '?' ∉ "/shelf/code/a%2Fb%3F".toList ∧
      (["code".toList, Percent.segment "a/b?".toList] <:+
        "/shelf/code/a%2Fb%3F".toList.splitOn '/' ↔ "a/b?" ≠ "." ∧ "a/b?" ≠ "..") ∧
      ∃ url, callUrl? ⟨"http://127.0.0.1:8000/shelf"⟩
        (Request.content ⟨"a/b?"⟩).call = some url := by
  have accepted : Config.ofText "http://127.0.0.1:8000/shelf/" =
      .ok ⟨"http://127.0.0.1:8000/shelf"⟩ := by decide +kernel
  have sent : (Link.send (Request.content ⟨"a/b?"⟩).call
      ⟨⟨"http://127.0.0.1:8000/shelf"⟩, .serving [], []⟩).1.sent =
        [⟨.get, "/shelf/code/a%2Fb%3F", none⟩] := by decide +kernel
  obtain ⟨hsent, hmade⟩ := content_ends_target_unless_dots accepted (by decide +kernel)
    (by decide +kernel) (show (SampleId.mk "a/b?").text ≠ "" by decide)
  obtain ⟨hquestion, hends⟩ := hsent _ _ rfl sent
  have hlast : (trim "http://127.0.0.1:8000/shelf/".toList).getLast? = some '/' := by
    decide +kernel
  obtain ⟨url, hurl, -⟩ := hmade (by
    rw [hlast]
    rintro c ⟨rfl⟩
    rfl)
  exact ⟨accepted, sent, hquestion, hends, url, hurl⟩

/-- The ids of dots are sent for something else: what is asked for is the start of the contents,
or the start of the service. -/
theorem dots_not_in_target :
    Config.ofText "http://127.0.0.1:8000/shelf/" = .ok ⟨"http://127.0.0.1:8000/shelf"⟩ ∧
      (Link.send (Request.content ⟨"."⟩).call
        ⟨⟨"http://127.0.0.1:8000/shelf"⟩, .serving [], []⟩).1.sent =
          [⟨.get, "/shelf/code/", none⟩] ∧
      ¬ ["code".toList, Percent.segment ".".toList] <:+ "/shelf/code/".toList.splitOn '/' ∧
      (Link.send (Request.content ⟨".."⟩).call
        ⟨⟨"http://127.0.0.1:8000/shelf"⟩, .serving [], []⟩).1.sent =
          [⟨.get, "/shelf/", none⟩] ∧
      ¬ ["code".toList, Percent.segment "..".toList] <:+ "/shelf/".toList.splitOn '/' := by
  decide +kernel

end Http

end CodeShelf
