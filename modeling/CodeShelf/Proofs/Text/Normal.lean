import CodeShelf.Text.Normal

/-!
# Controls in composed texts

No character has a control character or a space among its parts, and none of them goes together
with the character after it.  So the composed form of a text keeps them all.
-/

namespace CodeShelf.Text

namespace Normal

theorem composites_start : ∀ row ∈ composites, ∀ text ∈ row.texts, ∀ first ∈ text.head?,
    0x20 < first := by
  decide +kernel

variable {c : Char}

theorem join?_control (letter : Char) (h : c.toNat ≤ 0x20) : join? letter c = none := by
  rw [join?, if_pos (by omega)]

theorem control_join? (h : c.toNat ≤ 0x20) (next : Char) : join? c next = none := by
  have hparts : parts c.toNat = [c.toNat] := by rw [parts, if_pos (by omega)]
  have hsyllable : joinSyllable? c.toNat next.toNat = none := by
    have hlead : ¬ leadBase ≤ c.toNat := Nat.not_le_of_lt (Nat.lt_of_le_of_lt h (by decide))
    have hbase : ¬ syllableBase ≤ c.toNat := Nat.not_le_of_lt (Nat.lt_of_le_of_lt h (by decide))
    simp [joinSyllable?, isSyllable, hlead, hbase]
  have hnone : ∀ row ∈ composites,
      row.texts.findIdx? (· == parts c.toNat ++ [next.toNat]) = none := by
    intro row hrow
    rw [List.findIdx?_eq_none_iff]
    intro text htext
    rw [hparts, beq_eq_false_iff_ne]
    rintro rfl
    have hfirst := composites_start row hrow _ htext c.toNat rfl
    omega
  rw [join?, hsyllable]
  split
  · rfl
  · simp only [Option.map_eq_none_iff, List.findSome?_eq_none_iff]
    intro row hrow
    exact hnone row hrow

theorem mem_composeFrom (h : c.toNat ≤ 0x20) (letter : Char) (kept : List Char) (last : Nat)
    (rest : List (Nat × Char)) (hc : c = letter ∨ c ∈ kept ∨ (0, c) ∈ rest) :
    c ∈ composeFrom letter kept last rest := by
  fun_induction composeFrom letter kept last rest with
  | case1 letter kept last => simpa using hc
  | case2 letter kept last k d rest joined whole hwhole ih =>
      -- Neither the letter nor what it takes up is the control character.
      have hjoin : join? letter d = some whole := by
        simp only [joined] at hwhole
        split at hwhole
        · exact hwhole
        · cases hwhole
      have hletter : c ≠ letter := by
        rintro rfl
        cases (control_join? h d).symm.trans hjoin
      have hnext : (0, c) ≠ (k, d) := by
        rintro heq
        cases heq
        cases (join?_control letter h).symm.trans hjoin
      refine ih (.inr (hc.resolve_left hletter |>.imp_right fun hrest => ?_))
      exact (List.mem_cons.mp hrest).resolve_left hnext
  | case3 letter kept last d rest joined hnone ih =>
      rcases hc with rfl | hkept | hrest
      · exact List.mem_append_left _ List.mem_cons_self
      · exact List.mem_append_left _ (List.mem_cons_of_mem _ (List.mem_reverse.mpr hkept))
      · refine List.mem_append_right _ (ih ?_)
        rcases List.mem_cons.mp hrest with heq | hrest
        · exact .inl (congrArg Prod.snd heq)
        · exact .inr (.inr hrest)
  | case4 letter kept last k d rest joined hnone hk ih =>
      apply ih
      rcases hc with hletter | hkept | hrest
      · exact .inl hletter
      · exact .inr (.inl (List.mem_cons_of_mem d hkept))
      · rcases List.mem_cons.mp hrest with heq | hrest
        · exact absurd (congrArg Prod.fst heq).symm hk
        · exact .inr (.inr hrest)

theorem mem_compose (h : c.toNat ≤ 0x20) {text : List (Nat × Char)} (hc : (0, c) ∈ text) :
    c ∈ compose text := by
  fun_induction compose text with
  | case1 => cases hc
  | case2 d rest =>
      apply mem_composeFrom h
      rcases List.mem_cons.mp hc with heq | hrest
      · exact .inl (congrArg Prod.snd heq)
      · exact .inr (.inr hrest)
  | case3 k d rest hk ih =>
      rcases List.mem_cons.mp hc with heq | hrest
      · exact absurd (congrArg Prod.fst heq).symm hk
      · exact List.mem_cons_of_mem d (ih hrest)

theorem ordered_perm (cs : List Char) :
    (ordered cs).Perm (cs.map fun c => (combiningClass c, c)) := by
  induction cs with
  | nil => exact .refl _
  | cons c cs ih => exact (place_perm _ _).trans (ih.cons _)

end Normal

open CodeShelf.Text.Normal

theorem mem_normalize_of_control {c : Char} (h : c.toNat ≤ 0x20) {cs : List Char} (hc : c ∈ cs) :
    c ∈ normalize cs := by
  rw [normalize]
  split
  · exact hc
  · have hparts : c ∈ decompose cs := by
      refine List.mem_flatMap.mpr ⟨c, hc, ?_⟩
      rw [parts, if_pos (by omega)]
      simp
    have hclass : combiningClass c = 0 := by rw [combiningClass, if_pos (by omega)]
    apply mem_compose h
    rw [(ordered_perm _).mem_iff, ← hclass]
    exact List.mem_map_of_mem hparts

end CodeShelf.Text
