import CodeShelf.Json.Printer
import CodeShelf.Proofs.Json.Grammar
import CodeShelf.Proofs.Text.Blank
import CodeShelf.Proofs.Wire.Listing
import Mathlib.Tactic.IntervalCases

/-!
# Reading what was written as JSON

A value that nests no deeper than the reader follows, whose integers have 64 bits, whose
other numbers are none, and whose objects have every key once, is read back from its
compact text, because that text is one of its texts in the grammar.
-/

namespace CodeShelf.Json

open Number Text

/-- A value that can be read back, with at most the given number of arrays and objects
inside one another. -/
inductive Legible : Nat → Json → Prop
  | null (depth : Nat) : Legible depth .null
  | bool (depth : Nat) (b : Bool) : Legible depth (.bool b)
  | int (depth : Nat) {n : Int} (low : -(2 ^ 63) ≤ n) (high : n < 2 ^ 64) :
      Legible depth (.num (.int n))
  | str (depth : Nat) (s : String) : Legible depth (.str s)
  | arr {depth : Nat} {items : List Json} (items_legible : ∀ v ∈ items, Legible depth v) :
      Legible (depth + 1) (.arr items)
  | obj {depth : Nat} {members : List (String × Json)}
      (members_legible : ∀ m ∈ members, Legible depth m.2)
      (keys : (members.map (·.1)).Nodup) : Legible (depth + 1) (.obj members)

theorem legible_obj_singleton {depth : Nat} {v : Json} (key : String)
    (h : v.Legible depth) : (Json.obj [(key, v)]).Legible (depth + 1) := by
  refine .obj ?_ (List.nodup_singleton key)
  simp only [List.mem_singleton, forall_eq]
  exact h

/-! ## Strings -/

theorem unitText_lowerHexDigit {n : Nat} (h : n < 0x20) :
    UnitText n ['\\', 'u', '0', '0', lowerHexDigit (n / 16), lowerHexDigit (n % 16)] := by
  have hzero : hexValue? '0' = some 0 := rfl
  have hfirst : hexValue? (lowerHexDigit (n / 16)) = some (n / 16) :=
    hexValue?_lowerHexDigit ⟨n / 16, by omega⟩
  have hsecond : hexValue? (lowerHexDigit (n % 16)) = some (n % 16) :=
    hexValue?_lowerHexDigit ⟨n % 16, by omega⟩
  have hvalue : n / 16 * 16 + n % 16 = n := by omega
  refine .intro rfl ?_
  simp [hexNumber?, hzero, hfirst, hsecond, hvalue]

theorem charText_quotedChar (c : Char) : CharText c (quotedChar c) := by
  have hletter : ∀ {n : Nat} (letter : Char), c.toNat = n →
      (letter, Char.ofNat n) ∈ letterEscapes → CharText c ['\\', letter] := by
    intro n letter h hescape
    rw [← h, Char.ofNat_toNat] at hescape
    exact .letter hescape
  simp only [quotedChar]
  split
  · next h => exact hletter '"' h (by decide)
  split
  · next h => exact hletter '\\' h (by decide)
  split
  · next h => exact hletter 'b' h (by decide)
  split
  · next h => exact hletter 't' h (by decide)
  split
  · next h => exact hletter 'n' h (by decide)
  split
  · next h => exact hletter 'f' h (by decide)
  split
  · next h => exact hletter 'r' h (by decide)
  split
  · next h =>
      have hsingle := CharText.single (unitText_lowerHexDigit h) (.inl (by omega))
      rwa [Char.ofNat_toNat] at hsingle
  · next hquote hbackslash _ _ _ _ _ hplain =>
      have hne : c ≠ '"' := fun h => hquote (by rw [h]; rfl)
      have hne' : c ≠ '\\' := fun h => hbackslash (by rw [h]; rfl)
      exact .raw hne hne' (Nat.not_lt.mp hplain)

theorem stringText_quoted (s : String) : StringText s (quoted s) := by
  refine .intro ?_
  generalize s.toList = cs
  induction cs with
  | nil => exact .nil
  | cons c cs ih => exact .cons (charText_quotedChar c) ih

/-! ## Numbers -/

theorem natText_ne_nil (n : Nat) : natText n ≠ [] :=
  Nat.toDigits_ne_nil

theorem isDigit_iff {c : Char} : isDigit c = true ↔ c.isDigit = true := by
  simp [isDigit, Char.isDigit, UInt32.le_iff_toNat_le]

theorem isDigit_of_mem_natText {n : Nat} {c : Char} (h : c ∈ natText n) : isDigit c = true :=
  isDigit_iff.mpr (Nat.isDigit_of_mem_toDigits (by decide) (by decide) h)

theorem digits_natText (n : Nat) : Digits (natText n) :=
  ⟨natText_ne_nil n, fun _ hc => isDigit_of_mem_natText hc⟩

theorem digitsValue_natText (n : Nat) : digitsValue 0 (natText n) = n := by
  have hvalue : Nat.ofDigitChars 10 (natText n) 0 = n := Nat.ofDigitChars_ten_toDigits
  rw [Nat.ofDigitChars_eq_foldl] at hvalue
  simp only [digitsValue, digitValue, Nat.mul_comm _ 10]
  exact hvalue

theorem head?_natText {n : Nat} (h : 0 < n) : (natText n).head? ≠ some '0' := by
  induction n using Nat.strongRecOn with
  | ind n ih =>
      by_cases hsmall : n < 10
      · rw [natText, Nat.toDigits_of_lt_base hsmall]
        interval_cases n <;> decide
      · rw [natText, Nat.toDigits_of_base_le (by decide) (by omega), ← natText,
          List.head?_append_of_ne_nil _ (natText_ne_nil _)]
        exact ih (n / 10) (by omega) (by omega)

theorem numeralText_intText (n : Int) :
    NumeralText ⟨decide (n < 0), natText n.natAbs, none, none⟩ (intText n) := by
  have unpadded : (natText n.natAbs).head? = some '0' → (natText n.natAbs).length = 1 := by
    intro hhead
    cases Nat.eq_zero_or_pos n.natAbs with
    | inl hzero => rw [hzero]; rfl
    | inr hpos => exact absurd hhead (head?_natText hpos)
  have h := NumeralText.intro (decide (n < 0)) (digits_natText n.natAbs) unpadded .absent .absent
  by_cases hneg : n < 0 <;> simpa [intText, hneg] using h

theorem readNumeral_intText (n : Int) {rest : List Char} (h : Ends rest) :
    readNumeral (intText n ++ rest) =
      some (⟨decide (n < 0), natText n.natAbs, none, none⟩, rest) :=
  readNumeral_of_numeralText (numeralText_intText n) h

theorem numberText_intText {n : Int} (low : -(2 ^ 63) ≤ n) (high : n < 2 ^ 64) :
    NumberText (.int n) (intText n) := by
  refine ⟨_, numeralText_intText n, ?_⟩
  have h63 : twoPow 63 = 2 ^ 63 := rfl
  have h64 : twoPow 64 = 2 ^ 64 := rfl
  by_cases hneg : n < 0
  · have hfits : 0 < n.natAbs ∧ n.natAbs ≤ twoPow 63 := by omega
    have hvalue : -|n| = n := by rw [abs_of_neg hneg, neg_neg]
    simp [Numeral.toNumber?, digitsValue_natText, hneg, hfits, hvalue]
  · have hfits : n.natAbs < twoPow 64 := by omega
    have hvalue : (n.natAbs : Int) = n := by omega
    simp [Numeral.toNumber?, digitsValue_natText, hneg, hfits, hvalue]

theorem StartsNumber.isBlank {c : Char} (h : StartsNumber c) : isBlank c = false := by
  rcases h with rfl | hdigit
  · decide
  · exact isBlank_of_isDigit (isDigit_iff.mp hdigit)

theorem exists_intText_cons (n : Int) : ∃ c cs, intText n = c :: cs ∧ StartsNumber c :=
  (numeralText_intText n).exists_cons

/-! ## Values -/

theorem Padded.bare {α : Type} {part : α → List Char → Prop} {x : α} {text : List Char}
    (h : part x text) : Padded part x text := by
  have hnil : Spaces [] := List.forall_mem_nil _
  simpa using Padded.intro hnil h hnil

theorem separated_compactItems {part : Json → List Char → Prop} {v : Json} {items : List Json}
    (h : ∀ w ∈ v :: items, part w w.compact) :
    ∃ text, v.compact ++ compactItems items = text ++ [']'] ∧
      Separated (Padded part) (v :: items) text := by
  have hv := Padded.bare (h v List.mem_cons_self)
  induction items generalizing v with
  | nil => exact ⟨_, rfl, .last hv⟩
  | cons w items ih =>
      have hitems : ∀ u ∈ w :: items, part u u.compact := fun u hu =>
        h u (List.mem_cons_of_mem v hu)
      obtain ⟨text, htext, hseparated⟩ := ih hitems (.bare (hitems w List.mem_cons_self))
      refine ⟨v.compact ++ ',' :: text, ?_, .cons hv hseparated⟩
      simp [compactItems, htext]

theorem memberText_compact {part : Json → List Char → Prop} {m : String × Json}
    (h : part m.2 m.2.compact) : MemberText part m (quoted m.1 ++ ':' :: m.2.compact) := by
  have hnil : Spaces [] := List.forall_mem_nil _
  simpa using MemberText.intro hnil (stringText_quoted m.1) hnil (.bare h)

theorem separated_compactMembers {part : Json → List Char → Prop} {m : String × Json}
    {members : List (String × Json)} (h : ∀ n ∈ m :: members, part n.2 n.2.compact) :
    ∃ text, quoted m.1 ++ ':' :: (m.2.compact ++ compactMembers members) = text ++ ['\x7d'] ∧
      Separated (MemberText part) (m :: members) text := by
  have hm := memberText_compact (h m List.mem_cons_self)
  induction members generalizing m with
  | nil => exact ⟨_, by simp [compactMembers], .last hm⟩
  | cons n members ih =>
      have hmembers : ∀ u ∈ n :: members, part u.2 u.2.compact := fun u hu =>
        h u (List.mem_cons_of_mem m hu)
      obtain ⟨text, htext, hseparated⟩ :=
        ih hmembers (memberText_compact (hmembers n List.mem_cons_self))
      refine ⟨(quoted m.1 ++ ':' :: m.2.compact) ++ ',' :: text, ?_, .cons hm hseparated⟩
      simp [compactMembers, htext]

theorem valueText_compact {depth : Nat} {v : Json} (h : Legible depth v) :
    ValueText depth v v.compact := by
  induction h with
  | null depth => exact valueText_of_plainText .null depth
  | bool depth b =>
      cases b with
      | false => exact valueText_of_plainText .false depth
      | true => exact valueText_of_plainText .true depth
  | int depth low high => exact valueText_of_plainText (.num (numberText_intText low high)) depth
  | str depth s => exact valueText_of_plainText (.str (stringText_quoted s)) depth
  | @arr depth items items_legible ih =>
      cases items with
      | nil => exact .inr (.emptyArr (List.forall_mem_nil _))
      | cons v items =>
          obtain ⟨text, htext, hseparated⟩ := separated_compactItems ih
          rw [compact, List.cons_append, htext]
          exact .inr (.arr hseparated)
  | @obj depth members members_legible keys ih =>
      cases members with
      | nil => exact .inr (.emptyObj (List.forall_mem_nil _))
      | cons m members =>
          obtain ⟨text, htext, hseparated⟩ := separated_compactMembers ih
          rw [compact, ← ofPairs_of_nodup keys]
          simp only [List.cons_append, List.append_assoc]
          rw [htext]
          exact .inr (.obj hseparated)

theorem parse_compact {v : Json} (h : Legible maxDepth v) : parse v.compact = some v :=
  parse_eq_some_iff.mpr (.bare (valueText_compact h))

/-! ## The ends of a text -/

theorem exists_compact_cons {depth : Nat} {v : Json} (h : Legible depth v) :
    ∃ c cs, v.compact = c :: cs ∧ isBlank c = false ∧ c ≠ ']' := by
  cases h with
  | null => exact ⟨'n', _, rfl, by decide, by decide⟩
  | bool depth b =>
      cases b with
      | false => exact ⟨'f', _, rfl, by decide, by decide⟩
      | true => exact ⟨'t', _, rfl, by decide, by decide⟩
  | @int _ n =>
      obtain ⟨c, cs, htext, hc⟩ := exists_intText_cons n
      exact ⟨c, cs, htext, hc.isBlank, hc.ne (by decide)⟩
  | str depth s => exact ⟨'"', _, rfl, by decide, by decide⟩
  | @arr _ items => cases items <;> exact ⟨'[', _, rfl, by decide, by decide⟩
  | @obj _ members => cases members <;> exact ⟨'\x7b', _, rfl, by decide, by decide⟩

theorem exists_compactItems_append (items : List Json) :
    ∃ cs, compactItems items = cs ++ [']'] := by
  induction items with
  | nil => exact ⟨[], rfl⟩
  | cons v items ih =>
      obtain ⟨cs, hcs⟩ := ih
      exact ⟨',' :: v.compact ++ cs, by rw [compactItems, hcs, List.append_assoc]⟩

theorem exists_compactMembers_append (members : List (String × Json)) :
    ∃ cs, compactMembers members = cs ++ ['\x7d'] := by
  induction members with
  | nil => exact ⟨[], rfl⟩
  | cons m members ih =>
      obtain ⟨cs, hcs⟩ := ih
      exact ⟨',' :: quoted m.1 ++ ':' :: m.2.compact ++ cs, by
        simp only [compactMembers, hcs, List.append_assoc]⟩

theorem exists_compact_append {depth : Nat} {v : Json} (h : Legible depth v) :
    ∃ cs c, v.compact = cs ++ [c] ∧ isBlank c = false := by
  cases h with
  | null => exact ⟨['n', 'u', 'l'], 'l', rfl, by decide⟩
  | bool depth b =>
      cases b with
      | false => exact ⟨['f', 'a', 'l', 's'], 'e', rfl, by decide⟩
      | true => exact ⟨['t', 'r', 'u'], 'e', rfl, by decide⟩
  | @int _ n =>
      have hne := natText_ne_nil n.natAbs
      have hlast := List.dropLast_append_getLast hne
      have hdigit : StartsNumber ((natText n.natAbs).getLast hne) :=
        .inr (isDigit_of_mem_natText (List.getLast_mem hne))
      rw [compact, JsonNumber.text, intText]
      split
      · exact ⟨'-' :: (natText n.natAbs).dropLast, _, by rw [List.cons_append, hlast],
          hdigit.isBlank⟩
      · exact ⟨(natText n.natAbs).dropLast, _, hlast.symm, hdigit.isBlank⟩
  | str depth s => exact ⟨'"' :: s.toList.flatMap quotedChar, '"', rfl, by decide⟩
  | @arr _ items =>
      cases items with
      | nil => exact ⟨['['], ']', rfl, by decide⟩
      | cons v items =>
          obtain ⟨cs, hcs⟩ := exists_compactItems_append items
          exact ⟨'[' :: v.compact ++ cs, ']', by rw [compact, hcs, List.append_assoc], by decide⟩
  | @obj _ members =>
      cases members with
      | nil => exact ⟨['\x7b'], '\x7d', rfl, by decide⟩
      | cons m members =>
          obtain ⟨cs, hcs⟩ := exists_compactMembers_append members
          exact ⟨'\x7b' :: quoted m.1 ++ ':' :: m.2.compact ++ cs, '\x7d', by
            simp only [compact, hcs, List.append_assoc], by decide⟩

end CodeShelf.Json
