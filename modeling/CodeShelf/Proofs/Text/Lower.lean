import CodeShelf.Text.Lower
import Mathlib.Data.List.TakeWhile

/-!
# Lower case within a text

The lower-case form of a part of a text depends on the rest of the text only through the
capital sigmas of the part.  A sigma is settled inside the part if no neighbours change its
form: `settled_iff` says when that is.  A part whose sigmas are all settled has the same
lower-case form everywhere; with any other sigma there are neighbours that change it.
-/

namespace CodeShelf.Text

open Case

/-! ## Parts of a text -/

/-- The lower-case form of a part of a text between the rest of it; `before` is read
backwards. -/
def lowerWithin (before : List Char) : List Char → List Char → List Char
  | [], _ => []
  | c :: rest, after =>
      lowerBetween before c (rest ++ after) ++ lowerWithin (c :: before) rest after

theorem lowerAfter_append (before cs after : List Char) :
    lowerAfter before (cs ++ after) =
      lowerWithin before cs after ++ lowerAfter (cs.reverse ++ before) after := by
  induction cs generalizing before with
  | nil => rfl
  | cons c rest ih =>
      rw [List.cons_append, lowerAfter, lowerWithin, ih, List.reverse_cons, List.append_assoc,
        List.append_assoc]
      rfl

theorem lowerWithin_append (before cs ds after : List Char) :
    lowerWithin before (cs ++ ds) after =
      lowerWithin before cs (ds ++ after) ++ lowerWithin (cs.reverse ++ before) ds after := by
  induction cs generalizing before with
  | nil => rfl
  | cons c rest ih =>
      rw [List.cons_append, lowerWithin, lowerWithin, ih, List.reverse_cons, List.append_assoc,
        List.append_assoc, List.append_assoc]
      rfl

theorem lowerWithin_nil (before cs : List Char) :
    lowerWithin before cs [] = lowerAfter before cs := by
  have h := lowerAfter_append before cs []
  rw [List.append_nil, lowerAfter, List.append_nil] at h
  exact h.symm

theorem lower_append₃ (before cs after : List Char) :
    lower (before ++ cs ++ after) =
      lowerWithin [] before (cs ++ after) ++ lowerWithin before.reverse cs after ++
        lowerAfter (cs.reverse ++ before.reverse) after := by
  rw [lower, List.append_assoc, lowerAfter_append, lowerAfter_append, List.append_nil,
    List.append_assoc]

/-! ## The form of a sigma -/

def sigmaForm (before after : List Char) : Char :=
  if endsWord before after then finalSigma else smallSigma

theorem lowerBetween_sigma (before after : List Char) :
    lowerBetween before capitalSigma after = [sigmaForm before after] := by
  rw [lowerBetween, if_pos rfl, sigmaForm]

theorem lowerBetween_of_ne {c : Char} (h : c ≠ capitalSigma) (before after : List Char) :
    lowerBetween before c after = lowerChar c := by
  rw [lowerBetween, if_neg h]

theorem sigmaForm_eq_finalSigma {before after : List Char} :
    sigmaForm before after = finalSigma ↔ endsWord before after = true := by
  rw [sigmaForm]
  split
  · next h => simp [h]
  · next h =>
      have hne : smallSigma ≠ finalSigma := by decide
      simp [h, hne]

theorem sigmaForm_eq_smallSigma {before after : List Char} :
    sigmaForm before after = smallSigma ↔ endsWord before after = false := by
  rw [sigmaForm]
  split
  · next h =>
      have hne : finalSigma ≠ smallSigma := by decide
      simp [h, hne]
  · next h => simp [h]

def isIgnorable (cs : List Char) : Bool :=
  cs.all fun c => inRanges ignorableRanges c.toNat

theorem meetsCased_append (cs ds : List Char) :
    meetsCased (cs ++ ds) = if isIgnorable cs then meetsCased ds else meetsCased cs := by
  cases h : isIgnorable cs with
  | true =>
      have hnil : cs.dropWhile (fun c => inRanges ignorableRanges c.toNat) = [] :=
        List.dropWhile_eq_nil_iff.mpr (List.all_eq_true.mp h)
      rw [meetsCased, List.dropWhile_append, hnil]
      rfl
  | false =>
      cases hdrop : cs.dropWhile (fun c => inRanges ignorableRanges c.toNat) with
      | nil =>
          rw [isIgnorable, List.all_eq_true.mpr (List.dropWhile_eq_nil_iff.mp hdrop)] at h
          cases h
      | cons c rest =>
          simp only [meetsCased, List.dropWhile_append, hdrop, List.isEmpty_cons,
            List.cons_append]
          rfl

theorem meetsCased_of_isIgnorable {cs : List Char} (h : isIgnorable cs = true) :
    meetsCased cs = false := by
  have happend := meetsCased_append cs []
  rw [List.append_nil, h] at happend
  exact happend

theorem meetsCased_append_of_meetsCased {cs : List Char} (h : meetsCased cs = true)
    (ds : List Char) : meetsCased (cs ++ ds) = true := by
  rw [meetsCased_append]
  split
  · next hignorable =>
      rw [meetsCased_of_isIgnorable hignorable] at h
      cases h
  · exact h

theorem endsWord_append_left {before after : List Char} (h : endsWord before after = true)
    (more : List Char) : endsWord (before ++ more) after = true := by
  rw [endsWord, Bool.and_eq_true] at h ⊢
  exact ⟨meetsCased_append_of_meetsCased h.1 more, h.2⟩

theorem endsWord_of_append_right {before after more : List Char}
    (h : endsWord before (after ++ more) = true) : endsWord before after = true := by
  rw [endsWord, Bool.and_eq_true, Bool.not_eq_true'] at h ⊢
  refine ⟨h.1, ?_⟩
  rw [← Bool.not_eq_true]
  intro hcased
  rw [meetsCased_append_of_meetsCased hcased more] at h
  exact Bool.noConfusion h.2

/-- A sigma that has the same form whatever stands around its text.  Case-ignorable characters
not counted, the next character of the text is cased; or there is a character before the
sigma in the text, and that one is not cased or there is one after it as well.  `before` is
read backwards. -/
def Settled (before after : List Char) : Prop :=
  meetsCased after = true ∨
    (isIgnorable before = false ∧ (meetsCased before = false ∨ isIgnorable after = false))

theorem Settled.endsWord_eq {before after : List Char} (h : Settled before after)
    (more more' : List Char) :
    endsWord (before ++ more) (after ++ more') = endsWord before after := by
  rw [endsWord, endsWord, meetsCased_append before, meetsCased_append after]
  rcases h with hafter | ⟨hbefore, hcased | hafter⟩
  · have hmore := meetsCased_append_of_meetsCased hafter more'
    rw [meetsCased_append] at hmore
    rw [hmore, hafter]
    simp
  · simp [hbefore, hcased]
  · simp [hbefore, hafter]

theorem meetsCased_letter : meetsCased ['a'] = true := by decide +kernel

theorem endsWord_of_ignorable_before {before after : List Char}
    (hbefore : isIgnorable before = true) (hafter : meetsCased after = false) :
    endsWord before after = false ∧ endsWord (before ++ ['a']) after = true := by
  simp [endsWord, meetsCased_append, meetsCased_of_isIgnorable hbefore, hbefore, hafter,
    meetsCased_letter]

theorem endsWord_of_ignorable_after {before after : List Char}
    (hbefore : meetsCased before = true) (hafter : isIgnorable after = true) :
    endsWord before after = true ∧ endsWord before (after ++ ['a']) = false := by
  simp [endsWord, meetsCased_append, meetsCased_of_isIgnorable hafter, hbefore, hafter,
    meetsCased_letter]

theorem ignorable_of_not_settled {before after : List Char} (h : ¬ Settled before after) :
    (isIgnorable before = true ∧ meetsCased after = false) ∨
      (meetsCased before = true ∧ isIgnorable after = true) := by
  have hafter : meetsCased after = false := by
    rw [← Bool.not_eq_true]
    exact fun hcased => h (.inl hcased)
  cases hbefore : isIgnorable before with
  | true => exact .inl ⟨rfl, hafter⟩
  | false =>
      refine .inr ⟨?_, ?_⟩
      · by_contra hcased
        exact h (.inr ⟨hbefore, .inl (by simpa using hcased)⟩)
      · by_contra hignorable
        exact h (.inr ⟨hbefore, .inr (by simpa using hignorable)⟩)

theorem settled_iff {before after : List Char} :
    Settled before after ↔
      ∀ more more', endsWord (before ++ more) (after ++ more') = endsWord before after := by
  refine ⟨Settled.endsWord_eq, fun h => ?_⟩
  by_contra hnot
  rcases ignorable_of_not_settled hnot with ⟨hbefore, hafter⟩ | ⟨hbefore, hafter⟩
  · obtain ⟨alone, beside⟩ := endsWord_of_ignorable_before hbefore hafter
    have hsame := h ['a'] []
    rw [List.append_nil, alone, beside] at hsame
    cases hsame
  · obtain ⟨alone, beside⟩ := endsWord_of_ignorable_after hbefore hafter
    have hsame := h [] ['a']
    rw [List.append_nil, alone, beside] at hsame
    cases hsame

/-! ## Parts that look the same everywhere -/

def AllSettled (cs : List Char) : Prop :=
  ∀ before after, cs = before ++ capitalSigma :: after → Settled before.reverse after

theorem lowerWithin_of_settled {seen cs : List Char}
    (h : ∀ before after, cs = before ++ capitalSigma :: after →
      Settled (before.reverse ++ seen) after) (more more' : List Char) :
    lowerWithin (seen ++ more) cs more' = lowerWithin seen cs [] := by
  induction cs generalizing seen with
  | nil => rfl
  | cons c rest ih =>
      have hrest := @ih (c :: seen) fun before after heq => by
        have := h (c :: before) after (by rw [heq, List.cons_append])
        rwa [List.reverse_cons, List.append_assoc] at this
      rw [lowerWithin, lowerWithin, ← hrest, List.append_nil, List.cons_append]
      congr 1
      by_cases hc : c = capitalSigma
      · have settled : Settled seen rest := h [] rest (by rw [hc, List.nil_append])
        rw [hc, lowerBetween_sigma, lowerBetween_sigma, sigmaForm, settled.endsWord_eq, sigmaForm]
      · rw [lowerBetween_of_ne hc, lowerBetween_of_ne hc]

theorem AllSettled.lowerWithin_eq {cs : List Char} (h : AllSettled cs)
    (before after : List Char) : lowerWithin before cs after = lower cs := by
  have heq := @lowerWithin_of_settled [] cs (by simpa [AllSettled] using h) before after
  rwa [List.nil_append, lowerWithin_nil] at heq

/-! ## Counting forms -/

section Count

variable {form : Char} {more more' : List Char}

theorem count_lowerWithin_le
    (h : ∀ before after, sigmaForm (before ++ more) (after ++ more') = form →
      sigmaForm before after = form) (seen cs rest : List Char) :
    (lowerWithin (seen ++ more) cs (rest ++ more')).count form ≤
      (lowerWithin seen cs rest).count form := by
  induction cs generalizing seen with
  | nil => exact Nat.le_refl _
  | cons c tail ih =>
      rw [lowerWithin, lowerWithin, List.count_append, List.count_append, ← List.append_assoc]
      refine Nat.add_le_add ?_ (ih (c :: seen))
      by_cases hc : c = capitalSigma
      · rw [hc, lowerBetween_sigma, lowerBetween_sigma]
        by_cases hform : sigmaForm (seen ++ more) (tail ++ rest ++ more') = form
        · rw [hform, h seen (tail ++ rest) hform]
        · rw [List.count_singleton, if_neg (by simpa using hform)]
          exact Nat.zero_le _
      · rw [lowerBetween_of_ne hc, lowerBetween_of_ne hc]

theorem count_lowerWithin_lt
    (h : ∀ before after, sigmaForm (before ++ more) (after ++ more') = form →
      sigmaForm before after = form) {before after : List Char}
    (alone : sigmaForm before.reverse after = form)
    (beside : sigmaForm (before.reverse ++ more) (after ++ more') ≠ form) :
    (lowerWithin more (before ++ capitalSigma :: after) more').count form <
      (lower (before ++ capitalSigma :: after)).count form := by
  have hbefore := count_lowerWithin_le h [] before (capitalSigma :: after)
  have hafter := count_lowerWithin_le h (capitalSigma :: before.reverse) after []
  rw [List.nil_append] at hbefore hafter
  have hpart : (lowerWithin more (before ++ capitalSigma :: after) more').count form =
      (lowerWithin more before (capitalSigma :: after ++ more')).count form +
        (lowerWithin (capitalSigma :: before.reverse ++ more) after more').count form := by
    rw [lowerWithin_append, lowerWithin, lowerBetween_sigma, List.count_append, List.count_append,
      List.count_singleton, if_neg (by simpa using beside), Nat.zero_add, List.cons_append,
      List.cons_append]
  have hwhole : (lower (before ++ capitalSigma :: after)).count form =
      (lowerWithin [] before (capitalSigma :: after)).count form + 1 +
        (lowerWithin (capitalSigma :: before.reverse) after []).count form := by
    rw [lower, ← lowerWithin_nil, lowerWithin_append, lowerWithin, lowerBetween_sigma]
    simp only [List.append_nil, List.count_append, alone, List.count_singleton_self]
    omega
  omega

end Count

end CodeShelf.Text
