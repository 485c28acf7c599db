import CodeShelf.Text.Blank
import Mathlib.Data.List.DropRight

/-!
# Texts without blanks at their ends

What is left of a text without the blanks at its ends has none there, so taking them off a
second time changes nothing.
-/

namespace CodeShelf.Text

theorem range_of_isDigit {c : Char} (h : c.isDigit = true) : 48 ≤ c.toNat ∧ c.toNat ≤ 57 := by
  simpa [Char.isDigit, UInt32.le_iff_toNat_le] using h

theorem isBlank_of_isDigit {c : Char} (h : c.isDigit = true) : isBlank c = false := by
  have hrange := range_of_isDigit h
  simp only [isBlank, Bool.or_eq_false_iff, Bool.and_eq_false_iff, decide_eq_false_iff_not,
    beq_eq_false_iff_ne]
  omega

theorem dropWhile_isBlank {cs : List Char} (h : ∀ c ∈ cs, isBlank c = false) :
    cs.dropWhile isBlank = cs := by
  cases cs with
  | nil => rfl
  | cons c rest => rw [List.dropWhile_cons, if_neg (by simp [h c List.mem_cons_self])]

theorem trim_of_no_blank {cs : List Char} (h : ∀ c ∈ cs, isBlank c = false) : trim cs = cs := by
  have hreverse : ∀ c ∈ cs.reverse, isBlank c = false := by simpa using h
  rw [trim, trimStart, dropWhile_isBlank h, trimEnd, dropEndWhile, dropWhile_isBlank hreverse,
    List.reverse_reverse]

theorem trim_eq_self {cs before after : List Char} {first last : Char}
    (hfirst : cs = first :: after) (first_solid : isBlank first = false)
    (hlast : cs = before ++ [last]) (last_solid : isBlank last = false) : trim cs = cs := by
  have hstart : trimStart cs = cs := by
    rw [trimStart, hfirst, List.dropWhile_cons, if_neg (by simp [first_solid])]
  have hend : trimEnd cs = cs := by
    rw [trimEnd, dropEndWhile, hlast, List.reverse_append, List.reverse_singleton,
      List.singleton_append, List.dropWhile_cons, if_neg (by simp [last_solid])]
    simp
  rw [trim, hstart, hend]

theorem exists_dropEndWhile_append (p : Char → Bool) (cs : List Char) :
    ∃ tail, cs = dropEndWhile p cs ++ tail ∧ ∀ c ∈ tail, p c = true := by
  refine ⟨cs.rtakeWhile p, List.rdropWhile_append_rtakeWhile.symm, ?_⟩
  intro c hc
  exact List.mem_rtakeWhile_imp hc

theorem mem_of_mem_trim {c : Char} {cs : List Char} (h : c ∈ trim cs) : c ∈ cs :=
  (List.dropWhile_sublist isBlank).subset ((List.rdropWhile_prefix isBlank _).subset h)

theorem dropEndWhile_append {p : Char → Bool} {tail : List Char} {last : Char}
    (hlast : tail.getLast? = some last) (h : p last = false) (cs : List Char) :
    dropEndWhile p (cs ++ tail) = cs ++ tail := by
  obtain ⟨front, rfl⟩ := List.getLast?_eq_some_iff.mp hlast
  rw [← List.append_assoc]
  exact List.rdropWhile_concat_neg p _ last (by simp [h])

theorem trimStart_trim (cs : List Char) : trimStart (trim cs) = trim cs := by
  cases h : trim cs with
  | nil => rfl
  | cons c rest =>
      -- A text begins as it does with the blanks at its end.
      obtain ⟨tail, htail⟩ : c :: rest <+: trimStart cs := h ▸ List.rdropWhile_prefix isBlank _
      have hsolid := List.head?_dropWhile_not isBlank cs
      rw [← trimStart, ← htail] at hsolid
      exact List.dropWhile_cons_of_neg (by simpa using hsolid)

theorem trim_trim (cs : List Char) : trim (trim cs) = trim cs := by
  rw [trim, trimStart_trim]
  exact List.rdropWhile_idempotent isBlank (trimStart cs)

theorem trim_eq_nil_iff {cs : List Char} : trim cs = [] ↔ ∀ c ∈ cs, isBlank c = true := by
  constructor
  · intro h
    have hstart : trimStart cs = [] := by
      cases hcons : trimStart cs with
      | nil => rfl
      | cons c rest =>
          -- The first character of what is left is no blank, and so it is still there.
          have hsolid := List.head?_dropWhile_not isBlank cs
          rw [← trimStart, hcons] at hsolid
          have hblank := List.rdropWhile_eq_nil_iff.mp h c (by simp [hcons])
          simp [hblank] at hsolid
    exact List.dropWhile_eq_nil_iff.mp hstart
  · intro h
    rw [trim, trimStart, List.dropWhile_eq_nil_iff.mpr h]
    rfl

theorem trim_append {before after : List Char} (front : ∀ c ∈ before, isBlank c = true)
    (back : ∀ c ∈ after, isBlank c = true) (cs : List Char) :
    trim (before ++ (cs ++ after)) = trim cs := by
  have hstart : trimStart (before ++ (cs ++ after)) = trimStart (cs ++ after) :=
    List.dropWhile_append_of_pos front
  rw [trim, hstart, ← trim]
  by_cases hcs : trimStart cs = []
  · have hblank : ∀ c ∈ cs ++ after, isBlank c = true :=
      List.forall_mem_append.mpr ⟨List.dropWhile_eq_nil_iff.mp hcs, back⟩
    rw [trim_eq_nil_iff.mpr hblank, trim, hcs]
    rfl
  · have hend : ∀ solid, trimEnd (solid ++ after) = trimEnd solid := by
      intro solid
      rw [trimEnd, trimEnd, dropEndWhile, dropEndWhile, List.reverse_append,
        List.dropWhile_append_of_pos (by simpa using back)]
    have happend : trimStart (cs ++ after) = trimStart cs ++ after := by
      rw [trimStart, List.dropWhile_append, if_neg (by simpa [trimStart] using hcs)]
      rfl
    rw [trim, happend, hend, ← trim]

end CodeShelf.Text
