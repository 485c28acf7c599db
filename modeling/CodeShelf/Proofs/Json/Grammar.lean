import CodeShelf.Proofs.Json.Numbers
import CodeShelf.Proofs.Json.Strings

/-!
# The grammar of JSON

Which texts write which values, apart from any reader: words, numbers, strings, and arrays and
objects with blanks around each of their parts.  The reader takes the texts of the grammar and
no others, so that no text writes two values.
-/

namespace CodeShelf.Json

/-! ## What values look like -/

def Spaces (cs : List Char) : Prop :=
  ∀ c ∈ cs, isSpace c = true

inductive Padded {α : Type} (part : α → List Char → Prop) (x : α) : List Char → Prop
  | intro {before text after : List Char} (front : Spaces before) (h : part x text)
      (back : Spaces after) : Padded part x (before ++ (text ++ after))

inductive Separated {α : Type} (part : α → List Char → Prop) : List α → List Char → Prop
  | last {x : α} {text : List Char} (h : part x text) : Separated part [x] text
  | cons {x : α} {xs : List α} {text texts : List Char} (h : part x text)
      (h' : Separated part xs texts) : Separated part (x :: xs) (text ++ ',' :: texts)

inductive MemberText (part : Json → List Char → Prop) : String × Json → List Char → Prop
  | intro {key : String} {v : Json} {before quoted between text : List Char}
      (front : Spaces before) (named : StringText key quoted) (gap : Spaces between)
      (h : Padded part v text) :
      MemberText part (key, v) (before ++ (quoted ++ (between ++ ':' :: text)))

inductive PlainText : Json → List Char → Prop
  | null : PlainText .null ['n', 'u', 'l', 'l']
  | true : PlainText (.bool .true) ['t', 'r', 'u', 'e']
  | false : PlainText (.bool .false) ['f', 'a', 'l', 's', 'e']
  | num {n : JsonNumber} {text : List Char} (h : NumberText n text) : PlainText (.num n) text
  | str {s : String} {text : List Char} (h : StringText s text) : PlainText (.str s) text

/-- The texts of arrays and objects, by the texts of the values inside.  Of members with one key
the last value stands, in the place of the first. -/
inductive NestedText (part : Json → List Char → Prop) : Json → List Char → Prop
  | emptyArr {blanks : List Char} (h : Spaces blanks) :
      NestedText part (.arr []) ('[' :: (blanks ++ [']']))
  | arr {items : List Json} {text : List Char} (h : Separated (Padded part) items text) :
      NestedText part (.arr items) ('[' :: (text ++ [']']))
  | emptyObj {blanks : List Char} (h : Spaces blanks) :
      NestedText part (.obj []) ('\x7b' :: (blanks ++ ['\x7d']))
  | obj {members : List (String × Json)} {text : List Char}
      (h : Separated (MemberText part) members text) :
      NestedText part (ofPairs members) ('\x7b' :: (text ++ ['\x7d']))

/-- The texts of a value with at most the given number of arrays and objects inside one
another. -/
def ValueText : Nat → Json → List Char → Prop
  | 0 => PlainText
  | depth + 1 => fun v text => PlainText v text ∨ NestedText (ValueText depth) v text

def TextOf (v : Json) (cs : List Char) : Prop :=
  Padded (ValueText maxDepth) v cs

theorem valueText_of_plainText {v : Json} {text : List Char} (h : PlainText v text) :
    ∀ depth, ValueText depth v text
  | 0 => h
  | _ + 1 => .inl h

/-! ## Blanks -/

theorem exists_spaces (cs : List Char) :
    ∃ before, Spaces before ∧ cs = before ++ skipSpace cs :=
  ⟨cs.takeWhile isSpace, fun _ hc => List.mem_takeWhile_imp hc,
    List.takeWhile_append_dropWhile.symm⟩

theorem skipSpace_append {before : List Char} (h : Spaces before) (cs : List Char) :
    skipSpace (before ++ cs) = skipSpace cs :=
  List.dropWhile_append_of_pos h

theorem skipSpace_solid {c : Char} (h : isSpace c = false) (rest : List Char) :
    skipSpace (c :: rest) = c :: rest :=
  List.dropWhile_cons_of_neg (by simp [h])

theorem readValue_append {before : List Char} (h : Spaces before) (fuel depth : Nat)
    (cs : List Char) : readValue fuel depth (before ++ cs) = readValue fuel depth cs := by
  cases fuel with
  | zero => rfl
  | succ fuel => rw [readValue, readValue, skipSpace_append h]

theorem readItems_append {before : List Char} (h : Spaces before) (fuel depth : Nat)
    (cs : List Char) : readItems fuel depth (before ++ cs) = readItems fuel depth cs := by
  cases fuel with
  | zero => rfl
  | succ fuel => rw [readItems, readItems, readValue_append h]

theorem readMembers_append {before : List Char} (h : Spaces before) (fuel depth : Nat)
    (cs : List Char) : readMembers fuel depth (before ++ cs) = readMembers fuel depth cs := by
  cases fuel with
  | zero => rfl
  | succ fuel => rw [readMembers, readMembers, skipSpace_append h]

/-! ## What is read is written -/

theorem dropWord?_eq_some_iff {word cs rest : List Char} :
    dropWord? word cs = some rest ↔ cs = word ++ rest := by
  rw [dropWord?, Option.ite_none_right_eq_some, List.isPrefixOf_iff_prefix]
  constructor
  · rintro ⟨⟨more, rfl⟩, hdrop⟩
    rw [List.drop_left] at hdrop
    rw [Option.some.inj hdrop]
  · rintro rfl
    exact ⟨List.prefix_append _ _, by rw [List.drop_left]⟩

theorem plainText_of_readWord {cs rest : List Char} {v : Json}
    (h : readWord cs = some (v, rest)) : ∃ text, cs = text ++ rest ∧ PlainText v text := by
  unfold readWord at h
  split at h
  · next hword =>
      cases h
      exact ⟨_, dropWord?_eq_some_iff.mp hword, .null⟩
  · split at h
    · next hword =>
        cases h
        exact ⟨_, dropWord?_eq_some_iff.mp hword, .true⟩
    · obtain ⟨_, hword, heq⟩ := Option.map_eq_some_iff.mp h
      cases heq
      exact ⟨_, dropWord?_eq_some_iff.mp hword, .false⟩

theorem stringText_of_readString {cs s rest : List Char}
    (h : readString .plain cs = some (s, rest)) :
    ∃ text, '"' :: cs = text ++ rest ∧ StringText (String.ofList s) text := by
  obtain ⟨text, hcs, hchars⟩ := charsText_of_readString h .plain
  rw [List.nil_append] at hcs
  rw [← String.toList_ofList (l := s)] at hchars
  exact ⟨_, by simp [hcs], .intro hchars⟩

structure TakesTexts (fuel : Nat) : Prop where
  value : ∀ {depth cs v rest}, readValue fuel depth cs = some (v, rest) →
    ∃ before text, cs = before ++ (text ++ rest) ∧ Spaces before ∧ ValueText depth v text
  items : ∀ {depth cs vs rest}, readItems fuel depth cs = some (vs, rest) →
    ∃ text, cs = text ++ ']' :: rest ∧ Separated (Padded (ValueText depth)) vs text
  members : ∀ {depth cs ms rest}, readMembers fuel depth cs = some (ms, rest) →
    ∃ text, cs = text ++ '\x7d' :: rest ∧ Separated (MemberText (ValueText depth)) ms text

namespace TakesTexts

variable {fuel depth : Nat} {cs rest : List Char}

theorem array (h : TakesTexts fuel) {v : Json}
    (hread : (match skipSpace cs with
      | ']' :: rest => some (.arr [], rest)
      | rest => (readItems fuel depth rest).map fun r => (.arr r.1, r.2)) = some (v, rest)) :
    ∃ text, '[' :: cs = text ++ rest ∧ ValueText (depth + 1) v text := by
  obtain ⟨before, hbefore, hcs⟩ := exists_spaces cs
  split at hread
  · next hskip =>
      cases hread
      refine ⟨'[' :: (before ++ [']']), ?_, .inr (.emptyArr hbefore)⟩
      rw [hskip] at hcs
      simp [hcs]
  · obtain ⟨⟨items, rest'⟩, hitems, heq⟩ := Option.map_eq_some_iff.mp hread
    cases heq
    rw [← readItems_append hbefore, ← hcs] at hitems
    obtain ⟨text, rfl, hwritten⟩ := h.items hitems
    exact ⟨'[' :: (text ++ [']']), by simp, .inr (.arr hwritten)⟩

theorem object (h : TakesTexts fuel) {v : Json}
    (hread : (match skipSpace cs with
      | '\x7d' :: rest => some (.obj [], rest)
      | rest => (readMembers fuel depth rest).map fun r => (ofPairs r.1, r.2)) = some (v, rest)) :
    ∃ text, '\x7b' :: cs = text ++ rest ∧ ValueText (depth + 1) v text := by
  obtain ⟨before, hbefore, hcs⟩ := exists_spaces cs
  split at hread
  · next hskip =>
      cases hread
      refine ⟨'\x7b' :: (before ++ ['\x7d']), ?_, .inr (.emptyObj hbefore)⟩
      rw [hskip] at hcs
      simp [hcs]
  · obtain ⟨⟨members, rest'⟩, hmembers, heq⟩ := Option.map_eq_some_iff.mp hread
    cases heq
    rw [← readMembers_append hbefore, ← hcs] at hmembers
    obtain ⟨text, rfl, hwritten⟩ := h.members hmembers
    exact ⟨'\x7b' :: (text ++ ['\x7d']), by simp, .inr (.obj hwritten)⟩

theorem value_succ (h : TakesTexts fuel) {v : Json}
    (hread : readValue (fuel + 1) depth cs = some (v, rest)) :
    ∃ before text, cs = before ++ (text ++ rest) ∧ Spaces before ∧ ValueText depth v text := by
  obtain ⟨before, hbefore, hcs⟩ := exists_spaces cs
  suffices ∃ text, skipSpace cs = text ++ rest ∧ ValueText depth v text by
    obtain ⟨text, hskip, htext⟩ := this
    exact ⟨before, text, by rw [← hskip, ← hcs], hbefore, htext⟩
  rw [readValue] at hread
  split at hread
  · cases hread
  · next c more hskip =>
      rw [hskip]
      split_ifs at hread with hquote hbracket hbrace hnumber
      · obtain ⟨⟨s, rest'⟩, hstring, heq⟩ := Option.map_eq_some_iff.mp hread
        cases heq
        obtain ⟨text, htext, hwritten⟩ := stringText_of_readString hstring
        exact ⟨text, hquote ▸ htext, valueText_of_plainText (.str hwritten) depth⟩
      · subst hbracket
        obtain _ | depth := depth
        · cases hread
        · exact h.array hread
      · subst hbrace
        obtain _ | depth := depth
        · cases hread
        · exact h.object hread
      · obtain ⟨n, text, rfl, htext, hwritten⟩ := numberText_of_readNumber hread
        exact ⟨text, htext, valueText_of_plainText (.num hwritten) depth⟩
      · obtain ⟨text, htext, hwritten⟩ := plainText_of_readWord hread
        exact ⟨text, htext, valueText_of_plainText hwritten depth⟩

theorem padded (h : TakesTexts fuel) {v : Json} {behind : List Char}
    (hread : readValue fuel depth cs = some (v, behind)) {c : Char}
    (hskip : skipSpace behind = c :: rest) :
    ∃ text, cs = text ++ c :: rest ∧ Padded (ValueText depth) v text := by
  obtain ⟨before, text, rfl, hbefore, htext⟩ := h.value hread
  obtain ⟨after, hafter, hbehind⟩ := exists_spaces behind
  rw [hskip] at hbehind
  exact ⟨_, by rw [hbehind]; simp only [List.append_assoc], .intro hbefore htext hafter⟩

theorem items_succ (h : TakesTexts fuel) {vs : List Json}
    (hread : readItems (fuel + 1) depth cs = some (vs, rest)) :
    ∃ text, cs = text ++ ']' :: rest ∧ Separated (Padded (ValueText depth)) vs text := by
  rw [readItems] at hread
  split at hread
  · cases hread
  · next v behind hvalue =>
      split at hread
      · next hskip =>
          cases hread
          obtain ⟨text, rfl, hwritten⟩ := h.padded hvalue hskip
          exact ⟨text, rfl, .last hwritten⟩
      · next hskip =>
          obtain ⟨⟨items, rest'⟩, hitems, heq⟩ := Option.map_eq_some_iff.mp hread
          cases heq
          obtain ⟨text, rfl, hwritten⟩ := h.padded hvalue hskip
          obtain ⟨texts, rfl, hwritten'⟩ := h.items hitems
          exact ⟨text ++ ',' :: texts, by simp, .cons hwritten hwritten'⟩
      · cases hread

theorem members_succ (h : TakesTexts fuel) {ms : List (String × Json)}
    (hread : readMembers (fuel + 1) depth cs = some (ms, rest)) :
    ∃ text, cs = text ++ '\x7d' :: rest ∧ Separated (MemberText (ValueText depth)) ms text := by
  obtain ⟨before, hbefore, hcs⟩ := exists_spaces cs
  rw [readMembers] at hread
  split at hread
  · next hskip =>
      rw [hskip] at hcs
      split at hread
      · cases hread
      · next key behind hkey =>
          obtain ⟨quoted, hquoted, named⟩ := stringText_of_readString hkey
          obtain ⟨between, hbetween, hbehind⟩ := exists_spaces behind
          split at hread
          · next hcolon =>
              rw [hcolon] at hbehind
              split at hread
              · cases hread
              · next v behind' hvalue =>
                  have hfront := hcs.trans (congrArg (before ++ ·) hquoted)
                  rw [hbehind] at hfront
                  split at hread
                  · next hskip' =>
                      cases hread
                      obtain ⟨text, rfl, hwritten⟩ := h.padded hvalue hskip'
                      exact ⟨_, by rw [hfront]; simp,
                        .last (.intro hbefore named hbetween hwritten)⟩
                  · next hskip' =>
                      obtain ⟨⟨members, rest'⟩, hmembers, heq⟩ := Option.map_eq_some_iff.mp hread
                      cases heq
                      obtain ⟨text, rfl, hwritten⟩ := h.padded hvalue hskip'
                      obtain ⟨texts, rfl, hwritten'⟩ := h.members hmembers
                      exact ⟨_, by rw [hfront]; simp,
                        .cons (.intro hbefore named hbetween hwritten) hwritten'⟩
                  · cases hread
          · cases hread
  · cases hread

end TakesTexts

theorem takesTexts (fuel : Nat) : TakesTexts fuel := by
  -- The readers of values, items and members call one another with one call less.
  induction fuel with
  | zero =>
      constructor <;> intro _ _ _ _ hread <;> cases hread
  | succ fuel ih => exact ⟨ih.value_succ, ih.items_succ, ih.members_succ⟩

/-! ## What is written is read -/

theorem ValueText.exists_cons {depth : Nat} {v : Json} {text : List Char}
    (h : ValueText depth v text) : ∃ c cs, text = c :: cs ∧ isSpace c = false ∧ c ≠ ']' := by
  have plain : PlainText v text → ∃ c cs, text = c :: cs ∧ isSpace c = false ∧ c ≠ ']' := by
    intro h
    cases h with
    | null => exact ⟨'n', _, rfl, by decide, by decide⟩
    | true => exact ⟨'t', _, rfl, by decide, by decide⟩
    | false => exact ⟨'f', _, rfl, by decide, by decide⟩
    | num hnumber =>
        obtain ⟨numeral, hnumeral, -⟩ := hnumber
        obtain ⟨c, cs, rfl, hc⟩ := hnumeral.exists_cons
        exact ⟨c, cs, rfl, hc.isSpace, hc.ne (by decide)⟩
    | str hstring =>
        obtain ⟨_⟩ := hstring
        exact ⟨'"', _, rfl, by decide, by decide⟩
  obtain _ | depth := depth
  · exact plain h
  · rcases h with h | h
    · exact plain h
    · cases h with
      | emptyArr | arr => exact ⟨'[', _, rfl, by decide, by decide⟩
      | emptyObj | obj => exact ⟨'\x7b', _, rfl, by decide, by decide⟩

theorem ends_append {after : List Char} (h : Spaces after) {rest : List Char} (ends : Ends rest) :
    Ends (after ++ rest) := by
  cases after with
  | nil => exact ends
  | cons c after =>
      intro d hd
      cases hd
      have hspace := h c List.mem_cons_self
      simp only [isSpace, Bool.or_eq_true, beq_iff_eq] at hspace
      rcases hspace with ((rfl | rfl) | rfl) | rfl <;> decide

theorem ends_cons {c : Char} (h : c = ',' ∨ c = ']' ∨ c = '\x7d') (rest : List Char) :
    Ends (c :: rest) := by
  intro d hd
  cases hd
  rcases h with rfl | rfl | rfl <;> decide

theorem readValue_of_plainText {v : Json} {text rest : List Char} (h : PlainText v text)
    (ends : Ends rest) {fuel : Nat} (hfuel : text.length ≤ fuel) (depth : Nat) :
    readValue fuel depth (text ++ rest) = some (v, rest) := by
  cases h with
  | null | true | false =>
      obtain _ | fuel := fuel
      · simp at hfuel
      · rfl
  | num hnumber =>
      have hread := readNumber_of_numberText hnumber ends
      obtain ⟨numeral, hnumeral, -⟩ := hnumber
      obtain ⟨c, cs, rfl, hc⟩ := hnumeral.exists_cons
      obtain _ | fuel := fuel
      · simp at hfuel
      · rw [List.cons_append] at hread ⊢
        rw [readValue, skipSpace_solid hc.isSpace]
        simp only
        rw [if_neg (hc.ne (by decide)), if_neg (hc.ne (by decide)), if_neg (hc.ne (by decide))]
        exact (if_pos hc).trans hread
  | str hstring =>
      obtain ⟨hchars⟩ := hstring
      obtain _ | fuel := fuel
      · simp at hfuel
      · rw [List.cons_append, List.append_assoc, readValue, skipSpace_solid (by decide)]
        simp [readString_charsText hchars]

theorem Separated.exists_first {α : Type} {part : α → List Char → Prop} {xs : List α}
    {text : List Char} (h : Separated part xs text) :
    ∃ x first more, text = first ++ more ∧ part x first := by
  cases h with
  | last h => exact ⟨_, _, [], (List.append_nil _).symm, h⟩
  | cons h h' => exact ⟨_, _, _, rfl, h⟩

theorem exists_skipSpace_of_items {depth : Nat} {items : List Json} {text : List Char}
    (h : Separated (Padded (ValueText depth)) items text) (rest : List Char) :
    ∃ c cs, skipSpace (text ++ rest) = c :: cs ∧ c ≠ ']' := by
  obtain ⟨v, first, more, rfl, front, htext, back⟩ := h.exists_first
  obtain ⟨c, cs, rfl, hsolid, hc⟩ := htext.exists_cons
  rw [List.append_assoc, List.append_assoc, skipSpace_append front]
  exact ⟨c, _, skipSpace_solid hsolid _, hc⟩

theorem exists_skipSpace_of_members {depth : Nat} {members : List (String × Json)}
    {text : List Char} (h : Separated (MemberText (ValueText depth)) members text)
    (rest : List Char) : ∃ cs, skipSpace (text ++ rest) = '"' :: cs := by
  obtain ⟨m, first, more, rfl, front, ⟨hchars⟩, gap, hvalue⟩ := h.exists_first
  rw [List.append_assoc, List.append_assoc, skipSpace_append front]
  exact ⟨_, skipSpace_solid (by decide) _⟩

theorem readValue_of_items {cs rest : List Char} {c : Char} (hskip : skipSpace cs = c :: rest)
    (hc : c ≠ ']') (fuel depth : Nat) :
    readValue (fuel + 1) (depth + 1) ('[' :: cs) =
      (readItems fuel depth cs).map fun r => (.arr r.1, r.2) := by
  have hbracket : skipSpace ('[' :: cs) = '[' :: cs := skipSpace_solid (by decide) cs
  obtain ⟨before, hbefore, hcs⟩ := exists_spaces cs
  rw [hcs, readItems_append hbefore, ← hcs]
  simp [readValue, hbracket, hskip, hc]

theorem readValue_of_members {cs rest : List Char} (hskip : skipSpace cs = '"' :: rest)
    (fuel depth : Nat) :
    readValue (fuel + 1) (depth + 1) ('\x7b' :: cs) =
      (readMembers fuel depth cs).map fun r => (ofPairs r.1, r.2) := by
  have hbrace : skipSpace ('\x7b' :: cs) = '\x7b' :: cs := skipSpace_solid (by decide) cs
  obtain ⟨before, hbefore, hcs⟩ := exists_spaces cs
  rw [hcs, readMembers_append hbefore, ← hcs]
  simp [readValue, hbrace, hskip]

/-- Whether the reader takes the texts of values up to some depth, given a call for each of their
characters. -/
def ReadsTexts (depth : Nat) : Prop :=
  ∀ {v text}, ValueText depth v text → ∀ {fuel rest}, Ends rest → text.length ≤ fuel →
    readValue fuel depth (text ++ rest) = some (v, rest)

section

variable {depth : Nat} (reads : ReadsTexts depth)
include reads

theorem readValue_of_padded {v : Json} {text : List Char} (h : Padded (ValueText depth) v text)
    {c : Char} (hc : c = ',' ∨ c = ']' ∨ c = '\x7d') (rest : List Char) {fuel : Nat}
    (hfuel : text.length ≤ fuel) :
    ∃ behind, readValue fuel depth (text ++ c :: rest) = some (v, behind) ∧
      skipSpace behind = c :: rest := by
  obtain ⟨front, htext, back⟩ := h
  rename_i before text after
  have hsolid : isSpace c = false := by rcases hc with rfl | rfl | rfl <;> decide
  refine ⟨after ++ c :: rest, ?_, ?_⟩
  · simp only [List.length_append] at hfuel
    rw [List.append_assoc, List.append_assoc, readValue_append front]
    exact reads htext (ends_append back (ends_cons hc rest)) (by omega)
  · rw [skipSpace_append back, skipSpace_solid hsolid]

theorem readItems_of_separated {items : List Json} {text : List Char}
    (h : Separated (Padded (ValueText depth)) items text) {fuel : Nat} (rest : List Char)
    (hfuel : text.length < fuel) :
    readItems fuel depth (text ++ ']' :: rest) = some (items, rest) := by
  -- Behind every item there is a comma or the bracket, which pays for the call that reads it.
  induction h generalizing fuel with
  | last h =>
      obtain _ | fuel := fuel
      · omega
      · obtain ⟨behind, hread, hskip⟩ :=
          readValue_of_padded reads h (.inr (.inl rfl)) rest (Nat.le_of_lt_succ hfuel)
        simp [readItems, hread, hskip]
  | @cons v items text texts h h' ih =>
      simp only [List.length_append, List.length_cons] at hfuel
      obtain _ | fuel := fuel
      · omega
      · obtain ⟨behind, hread, hskip⟩ := readValue_of_padded reads h (.inl rfl)
          (texts ++ ']' :: rest) (show text.length ≤ fuel by omega)
        rw [List.append_assoc, List.cons_append]
        simp [readItems, hread, hskip, ih (show texts.length < fuel by omega)]

theorem readMembers_of_memberText {key : String} {v : Json} {text : List Char}
    (h : MemberText (ValueText depth) (key, v) text) {c : Char} (hc : c = ',' ∨ c = '\x7d')
    (rest : List Char) {fuel : Nat} (hfuel : text.length ≤ fuel) :
    readMembers (fuel + 1) depth (text ++ c :: rest) =
      if c = ',' then (readMembers fuel depth rest).map fun r => ((key, v) :: r.1, r.2)
      else some ([(key, v)], rest) := by
  obtain ⟨front, ⟨hchars⟩, gap, hvalue⟩ := h
  rename_i before between text chars
  simp only [List.length_append, List.length_cons] at hfuel
  obtain ⟨behind, hread, hskip⟩ := readValue_of_padded reads hvalue
    (hc.imp_right .inr) rest (show text.length ≤ fuel by omega)
  have hkey : skipSpace ('"' :: (chars ++ '"' :: (between ++ ':' :: (text ++ c :: rest)))) =
      '"' :: (chars ++ '"' :: (between ++ ':' :: (text ++ c :: rest))) :=
    skipSpace_solid (by decide) _
  have hcolon : skipSpace (between ++ ':' :: (text ++ c :: rest)) = ':' :: (text ++ c :: rest) := by
    rw [skipSpace_append gap, skipSpace_solid (by decide)]
  have hshape : before ++ ('"' :: (chars ++ ['"']) ++ (between ++ ':' :: text)) ++ c :: rest =
      before ++ '"' :: (chars ++ '"' :: (between ++ ':' :: (text ++ c :: rest))) := by simp
  rw [hshape, readMembers_append front]
  rcases hc with rfl | rfl <;>
    simp [readMembers, hkey, readString_charsText hchars, hcolon, hread, hskip]

theorem readMembers_of_separated {members : List (String × Json)} {text : List Char}
    (h : Separated (MemberText (ValueText depth)) members text) {fuel : Nat} (rest : List Char)
    (hfuel : text.length < fuel) :
    readMembers fuel depth (text ++ '\x7d' :: rest) = some (members, rest) := by
  induction h generalizing fuel with
  | last h =>
      obtain _ | fuel := fuel
      · omega
      · rw [readMembers_of_memberText reads h (.inr rfl) rest (Nat.le_of_lt_succ hfuel),
          if_neg (by decide)]
  | @cons m members text texts h h' ih =>
      simp only [List.length_append, List.length_cons] at hfuel
      obtain _ | fuel := fuel
      · omega
      · rw [List.append_assoc, List.cons_append,
          readMembers_of_memberText reads h (.inl rfl) _ (by omega), if_pos rfl,
          ih (show texts.length < fuel by omega), Option.map_some]

theorem readValue_of_nestedText {v : Json} {text : List Char}
    (h : NestedText (ValueText depth) v text) {fuel : Nat} (rest : List Char)
    (hfuel : text.length ≤ fuel) :
    readValue fuel (depth + 1) (text ++ rest) = some (v, rest) := by
  have hbracket : ∀ cs, skipSpace ('[' :: cs) = '[' :: cs := skipSpace_solid (by decide)
  have hbrace : ∀ cs, skipSpace ('\x7b' :: cs) = '\x7b' :: cs := skipSpace_solid (by decide)
  cases h with
  | emptyArr h =>
      obtain _ | fuel := fuel
      · simp at hfuel
      · have hskip := (skipSpace_append h (']' :: rest)).trans (skipSpace_solid (by decide) rest)
        simp [readValue, hbracket, hskip]
  | emptyObj h =>
      obtain _ | fuel := fuel
      · simp at hfuel
      · have hskip := (skipSpace_append h ('\x7d' :: rest)).trans (skipSpace_solid (by decide) rest)
        simp [readValue, hbrace, hskip]
  | arr h =>
      simp only [List.length_cons, List.length_append, List.length_nil] at hfuel
      obtain _ | fuel := fuel
      · omega
      · have hitems := readItems_of_separated reads h rest (Nat.le_of_succ_le_succ hfuel)
        obtain ⟨c, more, hskip, hc⟩ := exists_skipSpace_of_items h (']' :: rest)
        rw [List.cons_append, List.append_assoc, List.singleton_append,
          readValue_of_items hskip hc, hitems, Option.map_some]
  | obj h =>
      simp only [List.length_cons, List.length_append, List.length_nil] at hfuel
      obtain _ | fuel := fuel
      · omega
      · have hmembers := readMembers_of_separated reads h rest (Nat.le_of_succ_le_succ hfuel)
        obtain ⟨more, hskip⟩ := exists_skipSpace_of_members h ('\x7d' :: rest)
        rw [List.cons_append, List.append_assoc, List.singleton_append,
          readValue_of_members hskip, hmembers, Option.map_some]

end

theorem readsTexts (depth : Nat) : ReadsTexts depth := by
  -- The bound on the calls stays free, because the texts inside a value are shorter than its own.
  induction depth with
  | zero => exact fun h _ _ ends hfuel => readValue_of_plainText h ends hfuel 0
  | succ depth ih =>
      intro v text h fuel rest ends hfuel
      rcases h with h | h
      · exact readValue_of_plainText h ends hfuel (depth + 1)
      · exact readValue_of_nestedText ih h rest hfuel

/-- The reader takes the texts of the grammar and no others, each for the value that it writes. -/
theorem parse_eq_some_iff {cs : List Char} {v : Json} : parse cs = some v ↔ TextOf v cs := by
  constructor
  · intro h
    unfold parse at h
    split at h
    · next hread =>
        split_ifs at h with hend
        cases h
        obtain ⟨before, text, rfl, front, htext⟩ := (takesTexts _).value hread
        obtain ⟨after, back, hafter⟩ := exists_spaces _
        rw [List.isEmpty_iff.mp hend, List.append_nil] at hafter
        rw [hafter]
        exact .intro front htext back
    · cases h
  · rintro ⟨front, htext, back⟩
    rename_i before text after
    have hend : skipSpace after = [] := by
      have h := skipSpace_append back []
      rwa [List.append_nil] at h
    have hread := readsTexts maxDepth htext (ends_append back ends_nil)
      (show text.length ≤ 2 * (before ++ (text ++ after)).length + 2 by
        simp only [List.length_append]; omega)
    rw [List.append_nil, ← readValue_append front] at hread
    rw [parse, hread]
    simp [hend]

theorem TextOf.unique {v w : Json} {cs : List Char} (h : TextOf v cs) (h' : TextOf w cs) :
    v = w :=
  Option.some.inj ((parse_eq_some_iff.mpr h).symm.trans (parse_eq_some_iff.mpr h'))

end CodeShelf.Json
