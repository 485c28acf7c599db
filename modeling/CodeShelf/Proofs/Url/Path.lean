import CodeShelf.Proofs.Text.Percent
import CodeShelf.Url.Path
import Mathlib.Data.List.Basic

/-!
# Paths that end in a segment

What stands behind a path is resolved after the path itself, so the segments that come last are
found again at the end, dots apart.  The text of one segment that was made by escaping is itself
again, unless it is one dot or two: those stand for themselves in a segment, and a path does
not keep them.
-/

namespace CodeShelf

open Text

namespace Url

/-! ## Dots -/

theorem dotCount?_cons_of_ne {c : Char} (hdot : c ≠ '.') (hpercent : c ≠ '%') (rest : List Char) :
    dotCount? (c :: rest) = none := by
  unfold dotCount?
  split <;> simp_all

theorem dotCount?_percent {a b : Char} (h : ¬ (a = '2' ∧ (b = 'e' ∨ b = 'E')))
    (rest : List Char) : dotCount? ('%' :: a :: b :: rest) = none := by
  unfold dotCount?
  split <;> simp_all

theorem dotCount?_escapeChar {c : Char} (h : c ≠ '.') (rest : List Char) :
    dotCount? (Percent.escapeChar c ++ rest) = none := by
  obtain ⟨b, bytes, hbytes, hread⟩ := Utf8.exists_readChar_utf8EncodeChar c
  have hb : b.toNat < 256 := b.toNat_lt
  have hdigits : ∀ m n : Fin 16, upperHexDigit m = '2' →
      (upperHexDigit n = 'e' ∨ upperHexDigit n = 'E') → m.val * 16 + n.val = 0x2E := by
    decide
  rw [Percent.escapeChar, hbytes, List.flatMap_cons, Percent.escape]
  apply dotCount?_percent
  rintro ⟨hhigh, hlow⟩
  have hbyte := hdigits ⟨b.toNat / 16, by omega⟩ ⟨b.toNat % 16, by omega⟩ hhigh hlow
  have hdot : b.toNat = 0x2E := by
    simp only at hbyte
    omega
  have hchar := hread []
  simp [Utf8.readChar, hdot] at hchar
  exact h hchar.1.symm

theorem dotCount?_segment {cs : List Char} {n : Nat} :
    dotCount? (Percent.segment cs) = some n ↔ cs = List.replicate n '.' := by
  induction cs generalizing n with
  | nil => cases n <;> simp [Percent.segment, Percent.encode, dotCount?, List.replicate_succ]
  | cons c cs ih =>
      rw [Percent.segment, Percent.encode, List.flatMap_cons, ← Percent.encode, ← Percent.segment]
      by_cases hdot : c = '.'
      · subst hdot
        have hcount : dotCount? ('.' :: Percent.segment cs) =
            (dotCount? (Percent.segment cs)).map (· + 1) := rfl
        rw [if_pos (by decide), List.singleton_append, hcount, Option.map_eq_some_iff]
        simp only [ih]
        cases n with
        | zero => simp
        | succ n => simp [List.replicate_succ]
      · have hnone : dotCount? ((if Percent.isUnreserved c then [c] else Percent.escapeChar c) ++
            Percent.segment cs) = none := by
          split
          · next hkeep =>
              refine dotCount?_cons_of_ne hdot ?_ _
              rintro rfl
              cases Percent.isUnreserved_percent.symm.trans hkeep
          · exact dotCount?_escapeChar hdot _
        rw [hnone]
        cases n <;> simp [List.replicate_succ, hdot]

theorem isSingleDot_segment {cs : List Char} :
    isSingleDot (Percent.segment cs) = true ↔ cs = ['.'] := by
  rw [isSingleDot, beq_iff_eq, dotCount?_segment]
  rfl

theorem isDoubleDot_segment {cs : List Char} :
    isDoubleDot (Percent.segment cs) = true ↔ cs = ['.', '.'] := by
  rw [isDoubleDot, beq_iff_eq, dotCount?_segment]
  rfl

/-! ## Characters of segments -/

theorem isPathLiteral_of_isUnreserved {c : Char} (h : Percent.isUnreserved c = true) :
    isPathLiteral c = true := by
  have hvisible : isVisible c = true := by
    simp only [Percent.isUnreserved, Percent.isAlphanumeric, Bool.or_eq_true, Bool.and_eq_true,
      decide_eq_true_eq, beq_iff_eq] at h
    simp only [isVisible, Bool.and_eq_true, decide_eq_true_eq]
    rcases h with (((h | rfl) | rfl) | rfl) | rfl
    · omega
    all_goals decide
  have hreserved : ("\"#<>?`\x7b\x7d".toList.all fun d => !Percent.isUnreserved d) = true := by
    decide
  rw [isPathLiteral, hvisible, Bool.true_and, Bool.not_eq_true', Bool.eq_false_iff]
  intro hc
  have hnot := List.all_eq_true.mp hreserved c (List.contains_iff_mem.mp hc)
  rw [h] at hnot
  cases hnot

theorem of_mem_segment {c : Char} {cs : List Char} (h : c ∈ Percent.segment cs) :
    isPathLiteral c = true ∧ isSlash c = false := by
  rcases Percent.mem_encode h with hkeep | rfl | ⟨n, rfl⟩
  · refine ⟨isPathLiteral_of_isUnreserved hkeep, ?_⟩
    rw [Bool.eq_false_iff]
    intro hslash
    simp only [isSlash, Bool.or_eq_true, beq_iff_eq] at hslash
    rcases hslash with rfl | rfl <;> exact absurd hkeep (by decide)
  · decide
  · have hdigit : ∀ n : Fin 16, isPathLiteral (upperHexDigit n) = true ∧
        isSlash (upperHexDigit n) = false := by decide
    exact hdigit n

theorem encode_segment (cs : List Char) :
    Percent.encode isPathLiteral (Percent.segment cs) = Percent.segment cs :=
  Percent.encode_of_kept fun _ hc => (of_mem_segment hc).1

theorem splitOnP_segment (cs : List Char) :
    (Percent.segment cs).splitOnP isSlash = [Percent.segment cs] :=
  List.splitOnP_eq_singleton fun _ hc => (of_mem_segment hc).2

/-! ## Resolved segments -/

theorem exists_resolveSegments_append (resolved before : List (List Char)) :
    ∃ resolved', ∀ s rest,
      resolveSegments resolved (before ++ s :: rest) = resolveSegments resolved' (s :: rest) := by
  induction before generalizing resolved with
  | nil => exact ⟨resolved, fun s rest => rfl⟩
  | cons b before ih =>
      have hlater : ∀ s rest, (before ++ s :: rest).isEmpty = false := by simp
      simp only [List.cons_append, resolveSegments, hlater, Bool.false_eq_true, if_false]
      split
      · exact ih _
      · split
        · exact ih _
        · exact ih _

theorem mem_of_mem_shorten {s : List Char} {resolved : List (List Char)}
    (h : s ∈ shorten resolved) : s ∈ resolved := by
  cases resolved with
  | nil => exact h
  | cons t rest =>
      rw [shorten] at h
      split at h
      · exact h
      · exact List.mem_cons_of_mem t h

theorem question_not_mem_resolveSegments {resolved written : List (List Char)}
    (h : ∀ s ∈ resolved, '?' ∉ s) : ∀ s ∈ resolveSegments resolved written, '?' ∉ s := by
  induction written generalizing resolved with
  | nil => exact h
  | cons t rest ih =>
      have hshorten : ∀ s ∈ shorten resolved, '?' ∉ s := fun s hs => h s (mem_of_mem_shorten hs)
      rw [resolveSegments]
      split
      · apply ih
        split
        · exact List.forall_mem_cons.mpr ⟨List.not_mem_nil, hshorten⟩
        · exact hshorten
      · split
        · apply ih
          split
          · exact List.forall_mem_cons.mpr ⟨List.not_mem_nil, h⟩
          · exact h
        · have hencode : '?' ∉ Percent.encode isPathLiteral t :=
            Percent.not_mem_encode (by decide) (by decide) (by decide) t
          exact ih (List.forall_mem_cons.mpr ⟨hencode, h⟩)

theorem question_not_mem_readPath (written : List Char) : ∀ s ∈ readPath written, '?' ∉ s := by
  intro s hs
  rw [readPath, List.mem_reverse] at hs
  exact question_not_mem_resolveSegments (by simp) s hs

theorem exists_readPath_append {front : List Char}
    (hfront : front = [] ∨ ∃ c rest, front = c :: rest ∧ isSlash c = true) :
    ∃ resolved, ∀ tail, readPath (front ++ '/' :: tail) =
      (resolveSegments resolved (tail.splitOnP isSlash)).reverse := by
  obtain rfl | ⟨c, rest, rfl, hc⟩ := hfront
  · refine ⟨[], fun tail => ?_⟩
    rfl
  · obtain ⟨resolved, hresolved⟩ := exists_resolveSegments_append [] (rest.splitOnP isSlash)
    refine ⟨resolved, fun tail => ?_⟩
    have hsplit : splitPath (c :: rest ++ '/' :: tail) =
        rest.splitOnP isSlash ++ tail.splitOnP isSlash := by
      rw [List.cons_append, splitPath, if_pos hc]
      exact List.splitOnP_append_cons rest tail rfl
    obtain ⟨s, others, htail⟩ := List.exists_cons_of_ne_nil (List.splitOnP_ne_nil isSlash tail)
    rw [readPath, hsplit, htail, hresolved]

end Url

end CodeShelf
