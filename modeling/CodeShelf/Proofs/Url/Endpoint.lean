import CodeShelf.Config
import CodeShelf.Proofs.Text.Blank
import CodeShelf.Proofs.Url.Path

/-!
# Addresses with a path behind them

The URL of a path of the service is the text of its address, a slash, and the path.  Such a text
is read into the same scheme, host and port as the address, and what comes behind the slash is
the end of its path.  An address that ends in a control character is the exception: the
character does not count at the end of a text, but it does before a slash.
-/

namespace CodeShelf

open Text

/-! ## Texts that go on with a character of another kind -/

section

variable {p : Char → Bool} {c : Char} (h : p c = false)
include h

theorem dropWhile_append_cons (cs tail : List Char) :
    (cs ++ c :: tail).dropWhile p = cs.dropWhile p ++ c :: tail := by
  induction cs with
  | nil => exact List.dropWhile_cons_of_neg (by simp [h])
  | cons d cs ih =>
      rw [List.cons_append, List.dropWhile_cons, List.dropWhile_cons]
      split
      · exact ih
      · rfl

theorem takeWhile_append_cons (cs tail : List Char) :
    (cs ++ c :: tail).takeWhile p = cs.takeWhile p := by
  induction cs with
  | nil => exact List.takeWhile_cons_of_neg (by simp [h])
  | cons d cs ih =>
      rw [List.cons_append, List.takeWhile_cons, List.takeWhile_cons]
      split
      · rw [ih]
      · rfl

end

theorem dropWhile_append_of_solid {p : Char → Bool} {cs : List Char}
    (solid : ∃ c ∈ cs, p c = false) (tail : List Char) :
    (cs ++ tail).dropWhile p = cs.dropWhile p ++ tail := by
  have hne : cs.dropWhile p ≠ [] := by
    obtain ⟨c, hc, hsolid⟩ := solid
    intro hnil
    cases hsolid.symm.trans (List.dropWhile_eq_nil_iff.mp hnil c hc)
  rw [List.dropWhile_append, if_neg (by simpa using hne)]

namespace Url

/-! ## Schemes -/

theorem range_of_isAlpha {c : Char} (h : c.isAlpha = true) :
    (65 ≤ c.toNat ∧ c.toNat ≤ 90) ∨ (97 ≤ c.toNat ∧ c.toNat ≤ 122) := by
  unfold Char.isAlpha Char.isUpper Char.isLower at h
  simpa [UInt32.le_iff_toNat_le] using h

theorem isSchemeChar_of_isAlpha {c : Char} (h : c.isAlpha = true) : isSchemeChar c = true := by
  have hrange := range_of_isAlpha h
  have hletter : Percent.isAlphanumeric c = true := by
    simp only [Percent.isAlphanumeric, Bool.or_eq_true, Bool.and_eq_true, decide_eq_true_eq]
    omega
  simp [isSchemeChar, hletter]

theorem readScheme?_eq_some_iff {cs rest : List Char} {scheme : String} :
    readScheme? cs = some (scheme, rest) ↔
      ∃ c name, cs = c :: name ++ ':' :: rest ∧ c.isAlpha = true ∧
        (∀ d ∈ c :: name, isSchemeChar d = true) ∧
        scheme = String.ofList ((c :: name).map Char.toLower) := by
  constructor
  · intro h
    unfold readScheme? at h
    split at h
    · next c others rest' hdrop =>
        split at h
        · next halpha =>
            simp only [Option.some.injEq, Prod.mk.injEq] at h
            obtain ⟨rfl, rfl⟩ := h
            have hsplit := List.takeWhile_append_dropWhile (p := isSchemeChar) (l := c :: others)
            rw [hdrop] at hsplit
            have htake : (c :: others).takeWhile isSchemeChar =
                c :: others.takeWhile isSchemeChar :=
              List.takeWhile_cons_of_pos (isSchemeChar_of_isAlpha halpha)
            refine ⟨c, others.takeWhile isSchemeChar, ?_, halpha, ?_, ?_⟩
            · rw [← htake]
              exact hsplit.symm
            · rw [← htake]
              exact fun d hd => List.mem_takeWhile_imp hd
            · rw [htake]
        · cases h
    · cases h
  · rintro ⟨c, name, rfl, halpha, hchars, rfl⟩
    have hcolon : isSchemeChar ':' = false := by decide
    have hdrop : (c :: name ++ ':' :: rest).dropWhile isSchemeChar = ':' :: rest := by
      rw [dropWhile_append_cons hcolon, List.dropWhile_eq_nil_iff.mpr hchars, List.nil_append]
    have htake : (c :: name ++ ':' :: rest).takeWhile isSchemeChar = c :: name := by
      rw [takeWhile_append_cons hcolon, List.takeWhile_eq_self_iff.mpr hchars]
    rw [List.cons_append] at hdrop htake ⊢
    simp only [readScheme?, hdrop, htake, halpha, if_true]

theorem readScheme?_append {cs rest : List Char} {scheme : String}
    (h : readScheme? cs = some (scheme, rest)) (tail : List Char) :
    readScheme? (cs ++ tail) = some (scheme, rest ++ tail) := by
  obtain ⟨c, name, rfl, hrest⟩ := readScheme?_eq_some_iff.mp h
  exact readScheme?_eq_some_iff.mpr ⟨c, name, by simp, hrest⟩

theorem mem_of_readScheme? {cs rest : List Char} {scheme : String} {c : Char}
    (h : readScheme? cs = some (scheme, rest)) (hc : c ∈ rest) : c ∈ cs := by
  obtain ⟨d, name, rfl, -⟩ := readScheme?_eq_some_iff.mp h
  exact List.mem_append_right _ (List.mem_cons_of_mem _ hc)

theorem exists_readScheme?_of_append {cs slashes rest : List Char} {scheme : String}
    (hslashes : ∀ c ∈ slashes, c = '/') (h : readScheme? (cs ++ slashes) = some (scheme, rest)) :
    ∃ front, rest = front ++ slashes ∧ readScheme? cs = some (scheme, front) := by
  obtain ⟨c, name, heq, halpha, hchars, hscheme⟩ := readScheme?_eq_some_iff.mp h
  have hcolon : ':' ∉ slashes := fun hmem => absurd (hslashes ':' hmem) (by decide)
  rcases List.append_eq_append_iff.mp heq with ⟨mid, hname, hmid⟩ | ⟨mid, hcs, hmid⟩
  · exact absurd (hmid ▸ List.mem_append_right mid List.mem_cons_self) hcolon
  · cases mid with
    | nil =>
        rw [List.nil_append] at hmid
        exact absurd (hmid ▸ List.mem_cons_self) hcolon
    | cons d front =>
        rw [List.cons_append, List.cons.injEq] at hmid
        obtain ⟨rfl, rfl⟩ := hmid
        exact ⟨front, rfl, readScheme?_eq_some_iff.mpr ⟨c, name, hcs, halpha, hchars, hscheme⟩⟩

/-! ## Authorities -/

def authorityText (cs : List Char) : List Char :=
  (cs.dropWhile isSlash).takeWhile fun c => !endsWebAuthority c

def afterAuthority (cs : List Char) : List Char :=
  (cs.dropWhile isSlash).dropWhile fun c => !endsWebAuthority c

def readPlace (scheme : String) (authority : List Char) : Except UrlError (Host × Option Nat) :=
  (readHost (splitAuthority authority).host).bind fun host =>
    (readPort scheme (splitAuthority authority).port).map fun port => (host, port)

theorem readWeb_eq (scheme : String) (cs : List Char) :
    readWeb scheme cs = (readPlace scheme (authorityText cs)).map fun place =>
      ⟨scheme, place.1, place.2, readPath (splitTail (afterAuthority cs)).1,
        (splitTail (afterAuthority cs)).2.1.map (Percent.encode isQueryLiteral),
        (splitTail (afterAuthority cs)).2.2.map (Percent.encode isFragmentLiteral)⟩ := by
  have hread : readWeb scheme cs =
      (readHost (splitAuthority (authorityText cs)).host).bind fun host =>
        (readPort scheme (splitAuthority (authorityText cs)).port).bind fun port =>
          .ok ⟨scheme, host, port, readPath (splitTail (afterAuthority cs)).1,
            (splitTail (afterAuthority cs)).2.1.map (Percent.encode isQueryLiteral),
            (splitTail (afterAuthority cs)).2.2.map (Percent.encode isFragmentLiteral)⟩ := rfl
  rw [hread, readPlace]
  cases readHost (splitAuthority (authorityText cs)).host with
  | error e => rfl
  | ok host =>
      simp only [Except.bind]
      cases readPort scheme (splitAuthority (authorityText cs)).port with
      | error e => rfl
      | ok port => rfl

theorem splitTail_of_plain {cs : List Char} (query : '?' ∉ cs) (fragment : '#' ∉ cs) :
    splitTail cs = (cs, none, none) := by
  have hfragment : ∀ c ∈ cs, (c != '#') = true := by
    intro c hc
    simpa using fun heq : c = '#' => fragment (heq ▸ hc)
  have hquery : ∀ c ∈ cs, (c != '?') = true := by
    intro c hc
    simpa using fun heq : c = '?' => query (heq ▸ hc)
  unfold splitTail
  rw [List.takeWhile_eq_self_iff.mpr hfragment, List.dropWhile_eq_nil_iff.mpr hfragment]
  simp only
  rw [List.takeWhile_eq_self_iff.mpr hquery, List.dropWhile_eq_nil_iff.mpr hquery]
  rfl

section

variable {front tail : List Char} (solid : ∃ c ∈ front, isSlash c = false)
include solid

theorem authorityText_append : authorityText (front ++ '/' :: tail) = authorityText front := by
  rw [authorityText, dropWhile_append_of_solid solid, takeWhile_append_cons (by decide)]
  rfl

theorem afterAuthority_append :
    afterAuthority (front ++ '/' :: tail) = afterAuthority front ++ '/' :: tail := by
  rw [afterAuthority, dropWhile_append_of_solid solid, dropWhile_append_cons (by decide)]
  rfl

end

theorem mem_of_mem_afterAuthority {c : Char} {cs : List Char} (h : c ∈ afterAuthority cs) :
    c ∈ cs :=
  (List.dropWhile_sublist _).subset ((List.dropWhile_sublist _).subset h)

theorem afterAuthority_cases {cs : List Char} (query : '?' ∉ cs) (fragment : '#' ∉ cs) :
    afterAuthority cs = [] ∨ ∃ c rest, afterAuthority cs = c :: rest ∧ isSlash c = true := by
  cases h : afterAuthority cs with
  | nil => exact .inl rfl
  | cons c rest =>
      right
      have hmem : c ∈ cs := mem_of_mem_afterAuthority (by simp [h])
      have hends := List.head?_dropWhile_not (fun c => !endsWebAuthority c) (cs.dropWhile isSlash)
      rw [← afterAuthority, h] at hends
      refine ⟨c, rest, rfl, ?_⟩
      have hquery : c ≠ '?' := fun heq => query (heq ▸ hmem)
      have hfragment : c ≠ '#' := fun heq => fragment (heq ▸ hmem)
      simpa [endsWebAuthority, hquery, hfragment] using hends

theorem readWeb_append {front tail : List Char} (scheme : String)
    (solid : ∃ c ∈ front, isSlash c = false) (query : '?' ∉ front ++ '/' :: tail)
    (fragment : '#' ∉ front ++ '/' :: tail) :
    readWeb scheme (front ++ '/' :: tail) =
      (readWeb scheme front).map fun u =>
        { u with
          path := readPath (afterAuthority front ++ '/' :: tail)
          query := none
          fragment := none } := by
  have hquery : '?' ∉ afterAuthority (front ++ '/' :: tail) :=
    fun h => query (mem_of_mem_afterAuthority h)
  have hfragment : '#' ∉ afterAuthority (front ++ '/' :: tail) :=
    fun h => fragment (mem_of_mem_afterAuthority h)
  rw [readWeb_eq, readWeb_eq, splitTail_of_plain hquery hfragment, authorityText_append solid,
    afterAuthority_append solid]
  cases readPlace scheme (authorityText front) with
  | error e => rfl
  | ok place => rfl

theorem solid_of_readWeb {scheme : String} {front slashes : List Char} {u : Web}
    (hslashes : ∀ c ∈ slashes, c = '/') (h : readWeb scheme (front ++ slashes) = .ok u) :
    ∃ c ∈ front, isSlash c = false := by
  by_contra hnone
  have hfront : ∀ c ∈ front, isSlash c = true := by
    intro c hc
    by_contra hsolid
    exact hnone ⟨c, hc, by simpa using hsolid⟩
  have hempty : (front ++ slashes).dropWhile isSlash = [] := by
    rw [List.dropWhile_eq_nil_iff]
    intro c hc
    rcases List.mem_append.mp hc with hfront' | hslash
    · exact hfront c hfront'
    · rw [hslashes c hslash]
      rfl
  rw [readWeb_eq, authorityText, hempty] at h
  cases h

theorem exists_readWeb_of_append {scheme : String} {front slashes : List Char} {u : Web}
    (hslashes : ∀ c ∈ slashes, c = '/') (h : readWeb scheme (front ++ slashes) = .ok u) :
    ∃ v, readWeb scheme front = .ok v := by
  have solid := solid_of_readWeb hslashes h
  cases slashes with
  | nil =>
      rw [List.append_nil] at h
      exact ⟨u, h⟩
  | cons d slashes =>
      rw [hslashes d List.mem_cons_self, readWeb_eq, authorityText_append solid] at h
      rw [readWeb_eq]
      cases hplace : readPlace scheme (authorityText front) with
      | error e =>
          rw [hplace] at h
          cases h
      | ok place => exact ⟨_, rfl⟩

/-! ## Texts cleaned of what does not count -/

def isOutside (c : Char) : Bool :=
  c.toNat ≤ 0x20

def isCounted (c : Char) : Bool :=
  !(c == '\t' || c == '\n' || c == '\r')

theorem clean_eq (cs : List Char) :
    clean cs = (dropEndWhile isOutside (cs.dropWhile isOutside)).filter isCounted := by
  rfl

theorem isCounted_of_not_isOutside {c : Char} (h : isOutside c = false) : isCounted c = true := by
  unfold isCounted
  rw [Bool.not_eq_true', Bool.or_eq_false_iff, Bool.or_eq_false_iff]
  simp only [beq_eq_false_iff_ne]
  refine ⟨⟨?_, ?_⟩, ?_⟩ <;> rintro rfl <;> cases h

def cleanStart (cs : List Char) : List Char :=
  (cs.dropWhile isOutside).filter isCounted

theorem cleanStart_append {tail : List Char} (h : ∀ c ∈ tail, isOutside c = false)
    (cs : List Char) : cleanStart (cs ++ '/' :: tail) = cleanStart cs ++ '/' :: tail := by
  have hcounted : ∀ c ∈ '/' :: tail, isCounted c = true :=
    List.forall_mem_cons.mpr ⟨rfl, fun c hc => isCounted_of_not_isOutside (h c hc)⟩
  rw [cleanStart, dropWhile_append_cons (by decide), List.filter_append,
    List.filter_eq_self.mpr hcounted, cleanStart]

theorem exists_cleanStart_eq (cs : List Char) : ∃ more, cleanStart cs = clean cs ++ more := by
  obtain ⟨tail, htail, -⟩ := exists_dropEndWhile_append isOutside (cs.dropWhile isOutside)
  refine ⟨tail.filter isCounted, ?_⟩
  rw [clean_eq, ← List.filter_append, ← htail, cleanStart]

theorem clean_eq_cleanStart {cs : List Char} {last : Char} (hlast : cs.getLast? = some last)
    (h : isOutside last = false) : clean cs = cleanStart cs := by
  obtain ⟨front, rfl⟩ := List.getLast?_eq_some_iff.mp hlast
  rw [clean_eq, cleanStart, dropWhile_append_cons h, dropEndWhile_append rfl h]

theorem clean_append {tail : List Char} (h : ∀ c ∈ tail, isOutside c = false) (cs : List Char) :
    clean (cs ++ '/' :: tail) = cleanStart cs ++ '/' :: tail := by
  have hne : '/' :: tail ≠ [] := List.cons_ne_nil '/' tail
  have hlast : (cs ++ '/' :: tail).getLast? = some (('/' :: tail).getLast hne) := by
    rw [List.getLast?_append_cons, List.getLast?_eq_some_getLast hne]
  have hinside : isOutside (('/' :: tail).getLast hne) = false := by
    rcases List.mem_cons.mp (List.getLast_mem hne) with heq | htail
    · rw [heq]
      rfl
    · exact h _ htail
  rw [clean_eq_cleanStart hlast hinside, cleanStart_append h]

theorem mem_of_mem_cleanStart {c : Char} {cs : List Char} (h : c ∈ cleanStart cs) : c ∈ cs :=
  (List.dropWhile_sublist _).subset (List.mem_of_mem_filter h)

/-- An address and the same address with more text behind it begin alike.  If the address ends in
a character that counts, nothing stands between the two. -/
theorem exists_clean_append (base : List Char) {slashes : List Char}
    (hslashes : ∀ c ∈ slashes, c = '/') :
    ∃ front more slashes', clean (base ++ slashes) = front ++ slashes' ∧
      cleanStart base = front ++ more ∧ (∀ c ∈ slashes', c = '/') ∧
      ((∀ c ∈ (base ++ slashes).getLast?, isOutside c = false) → more = []) := by
  cases slashes with
  | nil =>
      obtain ⟨more, hmore⟩ := exists_cleanStart_eq base
      refine ⟨clean base, more, [], by simp, hmore, by simp, ?_⟩
      intro hends
      rw [List.append_nil] at hends
      cases hlast : base.getLast? with
      | none =>
          rw [List.getLast?_eq_none_iff.mp hlast] at hmore
          exact (List.append_eq_nil_iff.mp hmore.symm).2
      | some last =>
          rw [clean_eq_cleanStart hlast (hends last hlast)] at hmore
          exact List.self_eq_append_right.mp hmore
  | cons d slashes =>
      obtain ⟨rfl, hrest⟩ := List.forall_mem_cons.mp hslashes
      have hinside : ∀ c ∈ slashes, isOutside c = false := by
        intro c hc
        rw [hrest c hc]
        rfl
      exact ⟨cleanStart base, [], '/' :: slashes, clean_append hinside base, by simp, hslashes,
        fun _ => rfl⟩

/-! ## Addresses -/

theorem parse_of_readScheme? {cs rest : List Char} {scheme : String}
    (h : readScheme? (clean cs) = some (scheme, rest))
    (hweb : (defaultPort? scheme).isSome = true) :
    parse cs = (readWeb scheme rest).map .web := by
  simp only [parse, h, hweb, if_true]

theorem parse_cases {cs : List Char} {url : Url} (h : parse cs = .ok url) :
    (∃ scheme rest u, readScheme? (clean cs) = some (scheme, rest) ∧
      (defaultPort? scheme).isSome = true ∧ readWeb scheme rest = .ok u ∧ url = .web u) ∨
    ∃ scheme, url = .other scheme ∧ (defaultPort? scheme).isSome = false := by
  cases hscheme : readScheme? (clean cs) with
  | none => simp [parse, hscheme] at h
  | some read =>
      obtain ⟨scheme, rest⟩ := read
      cases hport : (defaultPort? scheme).isSome with
      | true =>
          left
          rw [parse_of_readScheme? hscheme hport] at h
          cases hread : readWeb scheme rest with
          | error e => simp [hread, Except.map] at h
          | ok u =>
              simp only [hread, Except.map, Except.ok.injEq] at h
              exact ⟨scheme, rest, u, rfl, hport, hread, h.symm⟩
      | false =>
          right
          refine ⟨scheme, ?_, hport⟩
          simp only [parse, hscheme, hport, Bool.false_eq_true, if_false] at h
          split at h
          · cases hfile : checkFile rest <;> simp_all [Except.map]
          · cases hcheck : checkOther scheme rest <;> simp_all [Except.map]

theorem question_not_mem_path {cs : List Char} {u : Web} (h : parse cs = .ok (.web u)) :
    ∀ s ∈ u.path, '?' ∉ s := by
  rcases parse_cases h with ⟨scheme, rest, v, -, -, hread, heq⟩ | ⟨scheme, heq, -⟩
  · cases heq
    rw [readWeb_eq] at hread
    cases hplace : readPlace scheme (authorityText rest) with
    | error e => simp [hplace, Except.map] at hread
    | ok place =>
        simp only [hplace, Except.map, Except.ok.injEq] at hread
        rw [← hread]
        exact question_not_mem_readPath _
  · cases heq

theorem parse_append {base rest tail : List Char} {scheme : String}
    (hscheme : readScheme? (cleanStart base) = some (scheme, rest))
    (hport : (defaultPort? scheme).isSome = true) (solid : ∃ c ∈ rest, isSlash c = false)
    (query : '?' ∉ rest) (fragment : '#' ∉ rest)
    (htail : ∀ c ∈ tail, isOutside c = false ∧ c ≠ '?' ∧ c ≠ '#') :
    parse (base ++ '/' :: tail) = (readWeb scheme rest).map fun u =>
      .web { u with
        path := readPath (afterAuthority rest ++ '/' :: tail)
        query := none
        fragment := none } := by
  have hquery : '?' ∉ rest ++ '/' :: tail := by
    simpa [query] using fun hc => (htail '?' hc).2.1 rfl
  have hfragment : '#' ∉ rest ++ '/' :: tail := by
    simpa [fragment] using fun hc => (htail '#' hc).2.2 rfl
  have hparse : parse (base ++ '/' :: tail) =
      (readWeb scheme (rest ++ '/' :: tail)).map .web := by
    apply parse_of_readScheme? _ hport
    rw [clean_append fun c hc => (htail c hc).1]
    exact readScheme?_append hscheme _
  rw [hparse, readWeb_append scheme solid hquery hfragment]
  cases readWeb scheme rest with
  | error e => rfl
  | ok u => rfl

/-- What stands behind the slash after an address is resolved as the end of the path.  Everything
else of the URL is that of the address. -/
theorem exists_parse_append {base slashes : List Char} {url : Url}
    (hslashes : ∀ c ∈ slashes, c = '/') (query : '?' ∉ base) (fragment : '#' ∉ base)
    (h : parse (base ++ slashes) = .ok url) (hweb : (defaultPort? url.scheme).isSome = true) :
    ∃ (read : Except UrlError Web) (resolved : List (List Char)),
      (∀ tail, (∀ c ∈ tail, isOutside c = false ∧ c ≠ '?' ∧ c ≠ '#') →
        parse (base ++ '/' :: tail) = read.map fun u =>
          .web { u with
            path := (resolveSegments resolved (tail.splitOnP isSlash)).reverse
            query := none
            fragment := none }) ∧
      ((∀ c ∈ (base ++ slashes).getLast?, isOutside c = false) → ∃ u, read = .ok u) := by
  have hother : ¬ ∃ scheme, url = .other scheme ∧ (defaultPort? scheme).isSome = false := by
    rintro ⟨scheme, rfl, hnone⟩
    exact absurd (hweb.symm.trans hnone) (by decide)
  obtain ⟨scheme, rest, u, hscheme, hport, hread, -⟩ := (parse_cases h).resolve_right hother
  obtain ⟨start, more, slashes', hclean, hstart, hslashes', hmore⟩ :=
    exists_clean_append base hslashes
  rw [hclean] at hscheme
  obtain ⟨front, rfl, hfront⟩ := exists_readScheme?_of_append hslashes' hscheme
  have hscheme' : readScheme? (cleanStart base) = some (scheme, front ++ more) := by
    rw [hstart]
    exact readScheme?_append hfront more
  have solid : ∃ c ∈ front ++ more, isSlash c = false := by
    obtain ⟨c, hc, hsolid⟩ := solid_of_readWeb hslashes' hread
    exact ⟨c, List.mem_append_left more hc, hsolid⟩
  have hquery : '?' ∉ front ++ more :=
    fun hc => query (mem_of_mem_cleanStart (mem_of_readScheme? hscheme' hc))
  have hfragment : '#' ∉ front ++ more :=
    fun hc => fragment (mem_of_mem_cleanStart (mem_of_readScheme? hscheme' hc))
  obtain ⟨resolved, hresolved⟩ := exists_readPath_append (afterAuthority_cases hquery hfragment)
  refine ⟨readWeb scheme (front ++ more), resolved, ?_, ?_⟩
  · intro tail htail
    rw [parse_append hscheme' hport solid hquery hfragment htail, hresolved]
  · intro hends
    rw [hmore hends, List.append_nil]
    exact exists_readWeb_of_append hslashes' hread

end Url

end CodeShelf
