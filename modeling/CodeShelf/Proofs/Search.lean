import CodeShelf.Proofs.Text.Lower
import CodeShelf.Sample
import Mathlib.Data.List.Basic

/-!
# Searching for a part of a name

A search compares the lower-case forms of the name and of the term, each taken as a whole.
A term that is a part of the name letter by letter is found wherever it stands exactly if
its capital sigmas are all settled inside it: a sigma at the edge of the term may have
another form in the name than it has in the term alone.  So a longer term hides samples and
shows no others, as long as there is no sigma in the shorter one.
-/

namespace CodeShelf

open Text

namespace Text

theorem occursIn_append (before part after : List Char) :
    occursIn part (before ++ part ++ after) = true :=
  occursIn_iff.mpr ⟨before, after, rfl⟩

theorem occursIn_trans {part text whole : List Char} (hpart : occursIn part text = true)
    (htext : occursIn text whole = true) : occursIn part whole = true := by
  obtain ⟨before, after, rfl⟩ := occursIn_iff.mp hpart
  obtain ⟨before', after', rfl⟩ := occursIn_iff.mp htext
  apply occursIn_iff.mpr
  refine ⟨before' ++ before, after ++ after', ?_⟩
  simp only [List.append_assoc]

theorem count_le_of_occursIn {part text : List Char} (h : occursIn part text = true) (c : Char) :
    part.count c ≤ text.count c := by
  obtain ⟨before, after, rfl⟩ := occursIn_iff.mp h
  rw [List.count_append, List.count_append]
  omega

theorem AllSettled.occursIn_lower {cs : List Char} (h : AllSettled cs)
    (before after : List Char) : occursIn (lower cs) (lower (before ++ cs ++ after)) = true := by
  rw [lower_append₃, h.lowerWithin_eq]
  exact occursIn_append _ _ _

theorem allSettled_of_not_mem {cs : List Char} (h : capitalSigma ∉ cs) : AllSettled cs := by
  rintro before after rfl
  exact absurd (List.mem_append_right before List.mem_cons_self) h

theorem lowerChar_letter : lowerChar 'a' = ['a'] := by decide +kernel

theorem not_occursIn_behind_letter {before after : List Char}
    (hbefore : isIgnorable before.reverse = true) (hafter : meetsCased after = false) :
    ¬ occursIn (lower (before ++ capitalSigma :: after))
      (lower (['a'] ++ (before ++ capitalSigma :: after) ++ [])) = true := by
  obtain ⟨alone, beside⟩ := endsWord_of_ignorable_before hbefore hafter
  have hmono : ∀ b a, sigmaForm (b ++ ['a']) (a ++ []) = smallSigma →
      sigmaForm b a = smallSigma := by
    intro b a hform
    rw [sigmaForm_eq_smallSigma, ← Bool.not_eq_true, List.append_nil] at hform
    rw [sigmaForm_eq_smallSigma, ← Bool.not_eq_true]
    exact fun hends => hform (endsWord_append_left hends _)
  have hlt := count_lowerWithin_lt hmono (sigmaForm_eq_smallSigma.mpr alone) (by
    rw [List.append_nil, sigmaForm_eq_finalSigma.mpr beside]
    decide)
  intro hoccurs
  have hle := count_le_of_occursIn hoccurs smallSigma
  have hletter : List.count smallSigma ['a'] = 0 := by decide
  rw [lower_append₃, lowerAfter, List.append_nil, List.count_append] at hle
  rw [lowerWithin, lowerBetween_of_ne (by decide), lowerChar_letter, lowerWithin, List.append_nil,
    hletter] at hle
  rw [List.reverse_singleton] at hle
  omega

theorem not_occursIn_before_letter {before after : List Char}
    (hbefore : meetsCased before.reverse = true) (hafter : isIgnorable after = true) :
    ¬ occursIn (lower (before ++ capitalSigma :: after))
      (lower ([] ++ (before ++ capitalSigma :: after) ++ ['a'])) = true := by
  obtain ⟨alone, beside⟩ := endsWord_of_ignorable_after hbefore hafter
  have hmono : ∀ b a, sigmaForm (b ++ []) (a ++ ['a']) = finalSigma →
      sigmaForm b a = finalSigma := by
    intro b a hform
    rw [sigmaForm_eq_finalSigma, List.append_nil] at hform
    exact sigmaForm_eq_finalSigma.mpr (endsWord_of_append_right hform)
  have hlt := count_lowerWithin_lt hmono (sigmaForm_eq_finalSigma.mpr alone) (by
    rw [List.append_nil, sigmaForm_eq_smallSigma.mpr beside]
    decide)
  intro hoccurs
  have hle := count_le_of_occursIn hoccurs finalSigma
  have hletter : List.count finalSigma ['a'] = 0 := by decide
  rw [lower_append₃, lowerWithin, List.nil_append, List.count_append, lowerAfter, lowerAfter,
    lowerBetween_of_ne (by decide), lowerChar_letter, List.append_nil, hletter] at hle
  rw [List.reverse_nil] at hle
  omega

theorem allSettled_of_occursIn {cs : List Char}
    (h : ∀ before after, occursIn (lower cs) (lower (before ++ cs ++ after)) = true) :
    AllSettled cs := by
  rintro before after rfl
  by_contra hnot
  rcases ignorable_of_not_settled hnot with ⟨hbefore, hafter⟩ | ⟨hbefore, hafter⟩
  · exact not_occursIn_behind_letter hbefore hafter (h ['a'] [])
  · exact not_occursIn_before_letter hbefore hafter (h [] ['a'])

end Text

namespace Sample

theorem nameMatches_iff {name term : String} :
    nameMatches name term = true ↔
      term.toList = [] ∨ occursIn (lower term.toList) (lower name.toList) = true := by
  simp [nameMatches]

/-- A search finds every name of which the term is a part, letter by letter, exactly if no
neighbours of the term change the form of a capital sigma in it. -/
theorem literal_parts_found_iff_settled (term : String) :
    ((∀ before after : String, nameMatches (before ++ term ++ after) term = true) ↔
        AllSettled term.toList) ∧
      ((∀ (samples : List Sample) (s : Sample) (before after : String), s ∈ samples →
          s.name = before ++ term ++ after → s ∈ search term samples) ↔
        AllSettled term.toList) := by
  have found : (∀ before after : String, nameMatches (before ++ term ++ after) term = true) ↔
      AllSettled term.toList := by
    constructor
    · intro h
      rcases List.eq_nil_or_concat term.toList with hnil | ⟨_, _, hconcat⟩
      · intro before after heq
        simp [hnil] at heq
      · refine allSettled_of_occursIn fun before after => ?_
        rcases nameMatches_iff.mp (h (.ofList before) (.ofList after)) with hnil | hoccurs
        · simp [hnil] at hconcat
        · simpa using hoccurs
    · intro h before after
      refine nameMatches_iff.mpr (.inr ?_)
      rw [String.toList_append, String.toList_append]
      exact h.occursIn_lower before.toList after.toList
  refine ⟨found, Iff.trans ⟨fun h before after => ?_, fun h samples s before after hs hname => ?_⟩
    found⟩
  · have hmem := h [⟨⟨""⟩, before ++ term ++ after, ""⟩] _ before after List.mem_cons_self rfl
    exact (mem_search.mp hmem).2
  · exact mem_search.mpr ⟨hs, hname ▸ h before after⟩

/-- The sigma of `ΑΣ` is final in the term and small in the name `ΑΣΑ`, which begins with
the term: the search hides that name. -/
theorem literal_part_hidden :
    nameMatches ("" ++ "ΑΣ" ++ "Α") "ΑΣ" = false ∧
      search "ΑΣ" [⟨⟨"1"⟩, "" ++ "ΑΣ" ++ "Α", "x"⟩] = [] := by
  decide +kernel

/-! ## Longer terms -/

theorem nameMatches_of_part {name before part after : String} (settled : AllSettled part.toList)
    (h : nameMatches name (before ++ part ++ after) = true) : nameMatches name part = true := by
  apply nameMatches_iff.mpr
  rcases nameMatches_iff.mp h with hnil | hoccurs
  · left
    simp only [String.toList_append, List.append_eq_nil_iff] at hnil
    exact hnil.1.2
  · right
    rw [String.toList_append, String.toList_append] at hoccurs
    exact occursIn_trans (settled.occursIn_lower before.toList after.toList) hoccurs

section

variable {wide narrow : String}

theorem search_sublist (h : ∀ name, nameMatches name narrow = true → nameMatches name wide = true)
    (samples : List Sample) : (search narrow samples).Sublist (search wide samples) :=
  List.monotone_filter_right samples fun s => h s.name

theorem search_search (h : ∀ name, nameMatches name narrow = true → nameMatches name wide = true)
    (samples : List Sample) : search narrow (search wide samples) = search narrow samples := by
  unfold search
  rw [List.filter_filter]
  apply List.filter_congr
  intro s _
  by_cases hnarrow : nameMatches s.name narrow = true
  · rw [hnarrow, h s.name hnarrow]
    rfl
  · simp [hnarrow]

end

/-- A term without a capital sigma can be lengthened on both sides, by whatever texts: the
view loses samples, gains none, and is the same whether the samples of the shorter term or all
of them are searched. -/
theorem longer_term_narrows_view (samples : List Sample) (before term after : String)
    (h : capitalSigma ∉ term.toList) :
    (search (before ++ term ++ after) samples).Sublist (search term samples) ∧
      search (before ++ term ++ after) (search term samples) =
        search (before ++ term ++ after) samples := by
  have narrows : ∀ name, nameMatches name (before ++ term ++ after) = true →
      nameMatches name term = true := fun name => nameMatches_of_part (allSettled_of_not_mem h)
  exact ⟨search_sublist narrows samples, search_search narrows samples⟩

/-- The lower-case form of the dotted capital in the name of the second sample has two
characters: the term ends with the first of them, and the longer term goes on with the
second. -/
theorem longer_term_narrows_view_within_letter :
    let first : Sample := ⟨⟨"1"⟩, "xIst", ""⟩
    let second : Sample := ⟨⟨"2"⟩, "XİST", "print"⟩
    let third : Sample := ⟨⟨"3"⟩, "last", ""⟩
    let samples := [first, second, third]
    let term := "i"
    let longer := "X" ++ term ++ "\u0307S"
    capitalSigma ∉ term.toList ∧ search term samples = [first, second] ∧
      search longer samples = [second] ∧
      (search longer samples).Sublist (search term samples) ∧
      search longer (search term samples) = search longer samples := by
  intro first second third samples term longer
  have hsigma : capitalSigma ∉ term.toList := by decide
  have hwide : search term samples = [first, second] := by decide +kernel
  have hnarrow : search longer samples = [second] := by decide +kernel
  exact ⟨hsigma, hwide, hnarrow, longer_term_narrows_view samples "X" term "\u0307S" hsigma⟩

end Sample

end CodeShelf
