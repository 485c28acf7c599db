import CodeShelf.Proofs.Url.Host

/-!
# Addresses whose endpoints are addresses

The text of an endpoint is the text of the address with more behind it.  It is an address itself:
it is read into the same scheme and authority, and what follows the authority is never refused.
The exception is an address that ends in its host or its port with a control character behind it.
At the end of a text the character does not count, but in the endpoint it does, and then no path
gives an address.
-/

namespace CodeShelf

namespace Text

theorem dropEndWhile_append_cons {p : Char → Bool} {c : Char} (h : p c = false)
    (cs tail : List Char) :
    dropEndWhile p (cs ++ c :: tail) = cs ++ c :: dropEndWhile p tail := by
  have hreverse : (cs ++ c :: tail).reverse = tail.reverse ++ c :: cs.reverse := by simp
  rw [dropEndWhile, hreverse, dropWhile_append_cons h]
  simp [dropEndWhile]

theorem not_isBlank_of_getLast? {cs : List Char} {last : Char}
    (h : (trim cs).getLast? = some last) : isBlank last = false := by
  have hne : trim cs ≠ [] := by
    intro hnil
    simp [hnil] at h
  have hlast := List.rdropWhile_last_not isBlank (trimStart cs) hne
  rw [List.getLast?_eq_some_getLast hne, Option.some.injEq] at h
  rw [← h]
  exact (Bool.not_eq_true _).mp hlast

end Text

open Text

namespace Url

theorem isOutside_of_isAlpha {c : Char} (h : c.isAlpha = true) : isOutside c = false := by
  have hrange := range_of_isAlpha h
  simp only [isOutside, decide_eq_false_iff_not]
  omega

theorem exists_solid_of_readScheme? {cs rest : List Char} {scheme : String}
    (h : readScheme? (clean cs) = some (scheme, rest)) : ∃ c ∈ cs, isOutside c = false := by
  obtain ⟨c, name, hclean, halpha, -⟩ := readScheme?_eq_some_iff.mp h
  obtain ⟨more, hmore⟩ := exists_cleanStart_eq cs
  refine ⟨c, mem_of_mem_cleanStart ?_, isOutside_of_isAlpha halpha⟩
  rw [hmore, hclean]
  exact List.mem_cons_self

theorem isCounted_of_not_isBlank {c : Char} (h : isBlank c = false) : isCounted c = true := by
  unfold isCounted
  rw [Bool.not_eq_true', Bool.or_eq_false_iff, Bool.or_eq_false_iff]
  simp only [beq_eq_false_iff_ne]
  refine ⟨⟨?_, ?_⟩, ?_⟩ <;> rintro rfl <;> cases h

theorem exists_clean_append_cons (cs tail : List Char) :
    ∃ more, clean (cs ++ '/' :: tail) = cleanStart cs ++ '/' :: more := by
  refine ⟨(dropEndWhile isOutside tail).filter isCounted, ?_⟩
  rw [clean_eq, dropWhile_append_cons (by decide), dropEndWhile_append_cons (by decide),
    List.filter_append, List.filter_cons_of_pos (by decide), cleanStart]

theorem exists_cleanStart_concat {front : List Char} {last : Char} (outside : isOutside last = true)
    (counted : isCounted last = true) (solid : ∃ c ∈ front, isOutside c = false) :
    ∃ more, cleanStart (front ++ [last]) = clean (front ++ [last]) ++ (more ++ [last]) ∧
      ∀ c ∈ more, isOutside c = true := by
  obtain ⟨tail, htail, houtside⟩ :=
    exists_dropEndWhile_append isOutside (front.dropWhile isOutside)
  have hend : dropEndWhile isOutside (front.dropWhile isOutside ++ [last]) =
      dropEndWhile isOutside (front.dropWhile isOutside) :=
    List.rdropWhile_concat_pos isOutside _ last outside
  refine ⟨tail.filter isCounted, ?_, fun c hc => houtside c (List.mem_of_mem_filter hc)⟩
  rw [cleanStart, clean_eq, dropWhile_append_of_solid solid, hend, List.filter_append, List.filter_cons_of_pos counted,
    List.filter_nil, ← List.append_assoc, ← List.filter_append, ← htail]

theorem exists_readWeb_iff {scheme : String} {cs : List Char} :
    (∃ u, readWeb scheme cs = .ok u) ↔
      ∃ place, readPlace scheme (authorityText cs) = .ok place := by
  rw [readWeb_eq]
  cases readPlace scheme (authorityText cs) with
  | error e => simp [Except.map]
  | ok place => simp [Except.map]

section

variable {rest tail : List Char}

theorem authorityText_append_of_ended (h : afterAuthority rest ≠ []) :
    authorityText (rest ++ tail) = authorityText rest := by
  obtain ⟨c, after, hafter⟩ := List.exists_cons_of_ne_nil h
  have hends : (!endsWebAuthority c) = false := by
    have hhead := List.head?_dropWhile_not (fun c => !endsWebAuthority c) (rest.dropWhile isSlash)
    rw [← afterAuthority, hafter] at hhead
    exact hhead
  have hne : rest.dropWhile isSlash ≠ [] := by
    intro hnil
    simp [afterAuthority, hnil] at h
  have hsplit : rest.dropWhile isSlash = authorityText rest ++ c :: after := by
    rw [← hafter]
    exact (List.takeWhile_append_dropWhile).symm
  have hdrop : (rest ++ tail).dropWhile isSlash = authorityText rest ++ c :: (after ++ tail) := by
    rw [List.dropWhile_append, if_neg (by simpa using hne), hsplit, List.append_assoc,
      List.cons_append]
  rw [authorityText, hdrop, takeWhile_append_cons hends, ← takeWhile_append_cons hends _ after,
    ← hsplit, ← authorityText]

theorem authorityText_append_of_open (solid : ∃ c ∈ rest, isSlash c = false)
    (h : afterAuthority rest = []) (htail : ∀ c ∈ tail, isOutside c = true) :
    authorityText (rest ++ tail) = rest.dropWhile isSlash ++ tail := by
  rw [authorityText, dropWhile_append_of_solid solid, List.takeWhile_eq_self_iff]
  intro c hc
  rcases List.mem_append.mp hc with hrest | hc
  · exact List.dropWhile_eq_nil_iff.mp h c hrest
  · have hne : ∀ d, isOutside d = false → c ≠ d := fun d hd => ne_of_isOutside (htail c hc) hd
    simp [endsWebAuthority, isSlash, hne '/' (by decide), hne '\\' (by decide),
      hne '?' (by decide), hne '#' (by decide)]

end

def afterScheme (cs : List Char) : List Char :=
  (cs.dropWhile (· != ':')).tail

theorem afterScheme_of_readScheme? {cs rest : List Char} {scheme : String}
    (h : readScheme? cs = some (scheme, rest)) : afterScheme cs = rest := by
  obtain ⟨c, name, rfl, -, hchars, -⟩ := readScheme?_eq_some_iff.mp h
  have hname : ∀ d ∈ c :: name, (d != ':') = true := by
    intro d hd
    rw [bne_iff_ne]
    rintro rfl
    cases (hchars _ hd)
  rw [afterScheme, dropWhile_append_cons (by decide), List.dropWhile_eq_nil_iff.mpr hname]
  rfl

end Url

namespace Config

open Url

theorem ofText_eq_ok_iff {text : String} {c : Config} :
    ofText text = .ok c ↔
      (∃ scheme rest, readScheme? (clean (trim text.toList)) = some (scheme, rest) ∧
        (scheme = "http" ∨ scheme = "https") ∧
        ∃ place, readPlace scheme (authorityText rest) = .ok place) ∧
      c.baseUrl.toList = dropEndWhile (· == '/') (trim text.toList) := by
  constructor
  · intro accepted
    rw [ofText] at accepted
    cases hparse : Url.parse (trim text.toList) with
    | error e => simp [hparse] at accepted
    | ok url =>
        simp only [hparse] at accepted
        split at accepted
        · next hscheme =>
            obtain rfl := Except.ok.inj accepted
            refine ⟨?_, String.toList_ofList⟩
            rcases parse_cases hparse with
              ⟨scheme, rest, u, hread, -, hweb, rfl⟩ | ⟨scheme, rfl, hport⟩
            · obtain ⟨place, hplace⟩ := exists_readWeb_iff.mp ⟨u, hweb⟩
              rw [readWeb_eq, hplace] at hweb
              cases hweb
              exact ⟨scheme, rest, hread, hscheme, place, hplace⟩
            · rcases hscheme with rfl | rfl <;> cases hport
        · cases accepted
  · rintro ⟨⟨scheme, rest, hread, hscheme, place, hplace⟩, hbase⟩
    have hport : (defaultPort? scheme).isSome = true := by
      rcases hscheme with rfl | rfl <;> decide
    obtain ⟨u, hparse, rfl⟩ : ∃ u : Web, Url.parse (trim text.toList) = .ok (.web u) ∧
        u.scheme = scheme := by
      rw [parse_of_readScheme? hread hport, readWeb_eq, hplace]
      exact ⟨_, rfl, rfl⟩
    have hc : c = ⟨String.ofList (dropEndWhile (· == '/') (trim text.toList))⟩ := by
      rw [← hbase, String.ofList_toList]
    rw [hc]
    simp only [ofText, hparse]
    exact if_pos hscheme

theorem endpoint_accepted_iff {c : Config} {scheme : String} {first : Char}
    {others rest : List Char} (hbase : c.baseUrl.toList = first :: others)
    (first_solid : isBlank first = false) (hscheme : scheme = "http" ∨ scheme = "https")
    (hread : readScheme? (cleanStart c.baseUrl.toList) = some (scheme, rest))
    (solid : ∃ c ∈ rest, isSlash c = false) (path : String) :
    (∃ d, ofText (c.endpoint path) = .ok d) ↔
      ∃ place, readPlace scheme (authorityText rest) = .ok place := by
  have htext : (c.endpoint path).toList =
      c.baseUrl.toList ++ '/' :: path.toList.dropWhile (· == '/') := by
    simp [endpoint]
  have htrim : trim (c.endpoint path).toList =
      c.baseUrl.toList ++ '/' :: trimEnd (path.toList.dropWhile (· == '/')) := by
    rw [htext, trim, trimStart, hbase, List.cons_append,
      List.dropWhile_cons_of_neg (by simp [first_solid]), ← List.cons_append]
    exact dropEndWhile_append_cons (by decide) _ _
  obtain ⟨more, hclean⟩ := exists_clean_append_cons c.baseUrl.toList
    (trimEnd (path.toList.dropWhile (· == '/')))
  have hread' := readScheme?_append hread ('/' :: more)
  simp only [ofText_eq_ok_iff, htrim, hclean]
  constructor
  · rintro ⟨d, ⟨scheme', rest', hread'', -, place, hplace⟩, -⟩
    cases hread'.symm.trans hread''
    rw [authorityText_append solid] at hplace
    exact ⟨place, hplace⟩
  · rintro ⟨place, hplace⟩
    have hplace' : readPlace scheme (authorityText (rest ++ '/' :: more)) = .ok place := by
      rw [authorityText_append solid, hplace]
    exact ⟨⟨String.ofList _⟩, ⟨scheme, _, hread', hscheme, place, hplace'⟩, String.toList_ofList⟩

/-- The address ends in its host or its port, and a control character stands behind it. -/
structure ControlEnded (text : String) : Prop where
  control : ∃ last ∈ (trim text.toList).getLast?, isOutside last = true
  ends : afterAuthority (afterScheme (clean (trim text.toList))) = []

theorem exists_cons_of_readScheme? {base slashes rest : List Char} {scheme : String}
    (htrim : trimStart (base ++ slashes) = base ++ slashes)
    (hread : readScheme? (cleanStart base) = some (scheme, rest)) :
    ∃ first others, base = first :: others ∧ isBlank first = false := by
  cases base with
  | nil => cases hread
  | cons first others =>
      refine ⟨first, others, rfl, ?_⟩
      have hhead := List.head?_dropWhile_not isBlank (first :: others ++ slashes)
      rw [← trimStart, htrim] at hhead
      simpa using hhead

section

variable {text : String} {c : Config} {slashes : List Char}

theorem endpoint_accepted_of_counted (accepted : ofText text = .ok c)
    (htrim : trim text.toList = c.baseUrl.toList ++ slashes) (hslashes : ∀ d ∈ slashes, d = '/')
    (counts : ∀ last ∈ (trim text.toList).getLast?, isOutside last = false) (path : String) :
    ∃ d, ofText (c.endpoint path) = .ok d := by
  obtain ⟨⟨scheme, rest, hread, hscheme, place, hplace⟩, -⟩ := ofText_eq_ok_iff.mp accepted
  -- The slashes that are taken off stand behind the scheme, and the host is read without them.
  obtain ⟨start, more, slashes', hclean, hstart, hslashes', hmore⟩ :=
    exists_clean_append c.baseUrl.toList hslashes
  rw [htrim] at hread counts
  rw [hclean] at hread
  rw [hmore counts, List.append_nil] at hstart
  obtain ⟨front, rfl, hfront⟩ := exists_readScheme?_of_append hslashes' hread
  rw [← hstart] at hfront
  obtain ⟨u, hweb⟩ := exists_readWeb_iff.mpr ⟨place, hplace⟩
  obtain ⟨first, others, hbase, first_solid⟩ :=
    exists_cons_of_readScheme? (htrim ▸ trimStart_trim text.toList) hfront
  rw [endpoint_accepted_iff hbase first_solid hscheme hfront (solid_of_readWeb hslashes' hweb)]
  exact exists_readWeb_iff.mp (exists_readWeb_of_append hslashes' hweb)

theorem endpoint_accepted_iff_of_control (accepted : ofText text = .ok c) {last : Char}
    (hlast : (trim text.toList).getLast? = some last) (control : isOutside last = true)
    (path : String) :
    (∃ d, ofText (c.endpoint path) = .ok d) ↔
      afterAuthority (afterScheme (clean (trim text.toList))) ≠ [] := by
  obtain ⟨⟨scheme, rest, hread, hscheme, place, hplace⟩, hbase⟩ := ofText_eq_ok_iff.mp accepted
  have counted : isCounted last = true := isCounted_of_not_isBlank (not_isBlank_of_getLast? hlast)
  have hslash : last ≠ '/' := ne_of_isOutside control (by decide)
  obtain ⟨front, hfront⟩ := List.getLast?_eq_some_iff.mp hlast
  rw [hfront] at hread ⊢
  rw [hfront, dropEndWhile_append (List.getLast?_singleton) (by simpa using hslash)] at hbase
  have solid : ∃ d ∈ front, isOutside d = false := by
    obtain ⟨d, hd, hsolid⟩ := exists_solid_of_readScheme? hread
    refine ⟨d, (List.mem_append.mp hd).resolve_right fun hlast => ?_, hsolid⟩
    cases (List.mem_singleton.mp hlast ▸ hsolid).symm.trans control
  obtain ⟨more, hstart, hmore⟩ := exists_cleanStart_concat control counted solid
  have hread' := readScheme?_append hread (more ++ [last])
  rw [← hstart, ← hbase] at hread'
  have htrim : trimStart (c.baseUrl.toList ++ []) = c.baseUrl.toList ++ [] := by
    simpa [hbase, ← hfront] using trimStart_trim text.toList
  obtain ⟨first, others, hcons, first_solid⟩ := exists_cons_of_readScheme? htrim hread'
  obtain ⟨u, hweb⟩ := exists_readWeb_iff.mpr ⟨place, hplace⟩
  rw [← List.append_nil rest] at hweb
  obtain ⟨d, hd, hsolid⟩ := solid_of_readWeb (List.forall_mem_nil _) hweb
  rw [endpoint_accepted_iff hcons first_solid hscheme hread' ⟨d, List.mem_append_left _ hd, hsolid⟩,
    afterScheme_of_readScheme? hread]
  -- An authority that something ends is closed to what comes back at the end of the text.
  by_cases hends : afterAuthority rest = []
  · have htail : ∀ e ∈ more ++ [last], isOutside e = true :=
      List.forall_mem_append.mpr ⟨hmore, by simpa using control⟩
    rw [authorityText_append_of_open ⟨d, hd, hsolid⟩ hends htail, ← List.append_assoc]
    obtain ⟨e, he⟩ := exists_readPlace_concat control scheme (rest.dropWhile isSlash ++ more)
    rw [he]
    simp [hends]
  · rw [authorityText_append_of_ended hends]
    exact iff_of_true ⟨place, hplace⟩ hends

end

/-- The endpoints of an address are addresses, whatever their paths, unless the address ends in its
host or its port with a control character behind it.  Then none of them is. -/
theorem endpoints_accepted_unless_control_ended {text : String} {c : Config}
    (accepted : ofText text = .ok c) (path : String) :
    (∃ d, ofText (c.endpoint path) = .ok d) ↔ ¬ ControlEnded text := by
  by_cases hcontrol : ∃ last ∈ (trim text.toList).getLast?, isOutside last = true
  · obtain ⟨last, hlast, control⟩ := hcontrol
    rw [endpoint_accepted_iff_of_control accepted hlast control]
    exact not_congr ⟨fun ends => ⟨⟨last, hlast, control⟩, ends⟩, fun h => h.ends⟩
  · obtain ⟨slashes, htrim, hslashes⟩ := exists_dropEndWhile_append (· == '/') (trim text.toList)
    rw [← (ofText_eq_ok_iff.mp accepted).2] at htrim
    have counts : ∀ last ∈ (trim text.toList).getLast?, isOutside last = false := by
      intro last hlast
      rw [← Bool.not_eq_true]
      exact fun control => hcontrol ⟨last, hlast, control⟩
    have hendpoint := endpoint_accepted_of_counted accepted htrim
      (fun d hd => beq_iff_eq.mp (hslashes d hd)) counts path
    exact iff_of_true hendpoint fun h => hcontrol h.control

theorem endpoints_accepted_unless_control_ended_reserved :
    ofText " https://me@shelf.test:8443/api/\x01" = .ok ⟨"https://me@shelf.test:8443/api/\x01"⟩ ∧
      ¬ ControlEnded " https://me@shelf.test:8443/api/\x01" ∧
      ∃ d, ofText (endpoint ⟨"https://me@shelf.test:8443/api/\x01"⟩ "//code@?#/[") = .ok d := by
  have accepted : ofText " https://me@shelf.test:8443/api/\x01" =
      .ok ⟨"https://me@shelf.test:8443/api/\x01"⟩ := by decide +kernel
  have hopen : ¬ ControlEnded " https://me@shelf.test:8443/api/\x01" := by
    intro h
    have hends : afterAuthority
        (afterScheme (clean (trim " https://me@shelf.test:8443/api/\x01".toList))) ≠ [] := by
      decide +kernel
    exact hends h.ends
  exact ⟨accepted, hopen,
    (endpoints_accepted_unless_control_ended accepted "//code@?#/[").mpr hopen⟩

/-- An address that ends in its host with a control character behind it: its endpoints have the
character in the host. -/
theorem control_ended_endpoint_refused :
    ofText "http://h\x01" = .ok ⟨"http://h\x01"⟩ ∧
      ofText (endpoint ⟨"http://h\x01"⟩ "/code/hello") =
        .error (.invalidUrl "http://h\x01/code/hello" .invalidDomainName) := by
  decide +kernel

end Config

end CodeShelf
