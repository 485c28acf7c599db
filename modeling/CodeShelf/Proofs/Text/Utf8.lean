import CodeShelf.Text.Utf8

/-!
# Reading what was written as bytes

The bytes of a text are read as that text, character by character and without a malformed
stretch.
-/

namespace CodeShelf.Text

theorem exists_mem_of_mapM {α β : Type} {f : α → Option β} {xs : List α} {ys : List β}
    (h : xs.mapM f = some ys) {x : α} (hx : x ∈ xs) : ∃ y ∈ ys, f x = some y := by
  induction xs generalizing ys with
  | nil => cases hx
  | cons z xs ih =>
      rw [List.mapM_cons] at h
      obtain ⟨y, hy, h⟩ := Option.bind_eq_some_iff.mp h
      obtain ⟨rest, hrest, h⟩ := Option.bind_eq_some_iff.mp h
      cases h
      rcases List.mem_cons.mp hx with rfl | hx
      · exact ⟨y, List.mem_cons_self, hy⟩
      · obtain ⟨y', hy', heq⟩ := ih hrest hx
        exact ⟨y', List.mem_cons_of_mem y hy', heq⟩

namespace Utf8

theorem readOwed_cons {low high x : Nat} (hlow : low ≤ x) (hhigh : x ≤ high) (hbyte : x < 256)
    (owed bits : Nat) (bytes : List UInt8) :
    readOwed (owed + 1) low high bits (UInt8.ofNat x :: bytes) =
      readOwed owed 0x80 0xBF (bits * 64 + (x - 0x80)) bytes := by
  rw [readOwed, UInt8.toNat_ofNat_of_lt' hbyte, if_pos ⟨hlow, hhigh⟩]

theorem readChar_lead {b owed low high bits : Nat} (hhigh : 0x80 ≤ b) (hbyte : b < 256)
    (h : lead? b = some ⟨owed, low, high, bits⟩) (bytes : List UInt8) :
    readChar (UInt8.ofNat b) bytes = readOwed owed low high bits bytes := by
  rw [readChar, UInt8.toNat_ofNat_of_lt' hbyte, if_neg (Nat.not_lt_of_le hhigh), h]

/-! ## Leads -/

theorem lead?_two {n : Nat} (hlow : 0x80 ≤ n) (hhigh : n ≤ 0x7FF) :
    lead? (n / 64 + 0xC0) = some ⟨1, 0x80, 0xBF, n / 64⟩ := by
  rw [lead?, if_pos (by omega)]
  simp

theorem exists_lead?_three {n : Nat} (hlow : 0x800 ≤ n) (hhigh : n ≤ 0xFFFF)
    (hchar : n < 0xD800 ∨ 0xDFFF < n) :
    ∃ low high, lead? (n / 4096 + 0xE0) = some ⟨2, low, high, n / 4096⟩ ∧
      low ≤ n / 64 % 64 + 0x80 ∧ n / 64 % 64 + 0x80 ≤ high := by
  have hnot : ¬ (0xC2 ≤ n / 4096 + 0xE0 ∧ n / 4096 + 0xE0 ≤ 0xDF) := by omega
  rw [lead?, if_neg hnot]
  by_cases hfirst : n / 4096 = 0
  · rw [hfirst]
    exact ⟨0xA0, 0xBF, rfl, by omega, by omega⟩
  · rw [if_neg (by omega)]
    by_cases hsurrogate : n / 4096 = 0xD
    · rw [hsurrogate]
      exact ⟨0x80, 0x9F, rfl, by omega, by omega⟩
    · rw [if_neg (by omega), if_pos (by omega)]
      exact ⟨0x80, 0xBF, by simp, by omega, by omega⟩

theorem exists_lead?_four {n : Nat} (hlow : 0x10000 ≤ n) (hhigh : n < 0x110000) :
    ∃ low high, lead? (n / 262144 + 0xF0) = some ⟨3, low, high, n / 262144⟩ ∧
      low ≤ n / 4096 % 64 + 0x80 ∧ n / 4096 % 64 + 0x80 ≤ high := by
  rw [lead?, if_neg (by omega), if_neg (by omega), if_neg (by omega), if_neg (by omega)]
  by_cases hfirst : n / 262144 = 0
  · rw [hfirst]
    exact ⟨0x90, 0xBF, rfl, by omega, by omega⟩
  · rw [if_neg (by omega)]
    by_cases hlast : n / 262144 = 4
    · rw [hlast]
      exact ⟨0x80, 0x8F, rfl, by omega, by omega⟩
    · rw [if_pos (by omega)]
      exact ⟨0x80, 0xBF, by simp, by omega, by omega⟩

/-! ## Characters -/

theorem toNat_valid (c : Char) :
    c.toNat < 0xD800 ∨ (0xDFFF < c.toNat ∧ c.toNat < 0x110000) :=
  c.valid

theorem exists_readChar_utf8EncodeChar (c : Char) :
    ∃ b bytes, String.utf8EncodeChar c = b :: bytes ∧
      ∀ rest, readChar b (bytes ++ rest) = (some c, rest) := by
  have hvalid := toNat_valid c
  have hc := Char.ofNat_toNat c
  have hv : c.val.toNat = c.toNat := rfl
  rw [String.utf8EncodeChar, hv]
  generalize c.toNat = n at *
  by_cases hone : n ≤ 0x7F
  · refine ⟨UInt8.ofNat n, [], by simp [hone], fun rest => ?_⟩
    have hn : (UInt8.ofNat n).toNat = n :=
      UInt8.toNat_ofNat_of_lt' (Nat.lt_of_le_of_lt hone (by decide))
    rw [readChar, hn, if_pos (by omega), hc, List.nil_append]
  by_cases htwo : n ≤ 0x7FF
  · refine ⟨UInt8.ofNat (n / 64 % 32 + 0xC0), [UInt8.ofNat (n % 64 + 0x80)],
      by simp [hone, htwo], fun rest => ?_⟩
    have hbits : n / 64 % 32 = n / 64 := by omega
    rw [hbits, readChar_lead (by omega) (by omega) (lead?_two (by omega) htwo),
      List.cons_append, readOwed_cons (by omega) (by omega) (by omega), readOwed,
      show n / 64 * 64 + (n % 64 + 0x80 - 0x80) = n by omega, hc, List.nil_append]
  by_cases hthree : n ≤ 0xFFFF
  · obtain ⟨low, high, hlead, hlow, hhigh⟩ :=
      exists_lead?_three (n := n) (by omega) hthree (by omega)
    refine ⟨UInt8.ofNat (n / 4096 % 16 + 0xE0),
      [UInt8.ofNat (n / 64 % 64 + 0x80), UInt8.ofNat (n % 64 + 0x80)],
      by simp [hone, htwo, hthree], fun rest => ?_⟩
    have hbits : n / 4096 % 16 = n / 4096 := by omega
    rw [hbits, readChar_lead (by omega) (by omega) hlead, List.cons_append,
      readOwed_cons hlow hhigh (by omega), List.cons_append,
      readOwed_cons (by omega) (by omega) (by omega), readOwed,
      show (n / 4096 * 64 + (n / 64 % 64 + 0x80 - 0x80)) * 64 + (n % 64 + 0x80 - 0x80) = n by
        omega, hc, List.nil_append]
  · obtain ⟨low, high, hlead, hlow, hhigh⟩ :=
      exists_lead?_four (n := n) (by omega) (by omega)
    refine ⟨UInt8.ofNat (n / 262144 % 8 + 0xF0),
      [UInt8.ofNat (n / 4096 % 64 + 0x80), UInt8.ofNat (n / 64 % 64 + 0x80),
        UInt8.ofNat (n % 64 + 0x80)],
      by simp [hone, htwo, hthree], fun rest => ?_⟩
    have hbits : n / 262144 % 8 = n / 262144 := by omega
    rw [hbits, readChar_lead (by omega) (by omega) hlead, List.cons_append,
      readOwed_cons hlow hhigh (by omega), List.cons_append,
      readOwed_cons (by omega) (by omega) (by omega), List.cons_append,
      readOwed_cons (by omega) (by omega) (by omega), readOwed,
      show ((n / 262144 * 64 + (n / 4096 % 64 + 0x80 - 0x80)) * 64 +
        (n / 64 % 64 + 0x80 - 0x80)) * 64 + (n % 64 + 0x80 - 0x80) = n by omega, hc,
      List.nil_append]

/-! ## Texts -/

theorem scan_encode (cs : List Char) : scan (encode cs) = cs.map some := by
  induction cs with
  | nil => rw [encode, List.flatMap_nil, scan, List.map_nil]
  | cons c cs ih =>
      obtain ⟨b, bytes, hencode, hread⟩ := exists_readChar_utf8EncodeChar c
      rw [encode, List.flatMap_cons, hencode, List.cons_append, ← encode, scan, hread, ih,
        List.map_cons]

@[simp] theorem decodeLossy_encode (cs : List Char) : decodeLossy (encode cs) = cs := by
  rw [decodeLossy, scan_encode, List.map_map]
  exact List.map_id' cs

/-! ## Bytes of ASCII -/

theorem low_of_lead? {b : Nat} {l : Lead} (h : lead? b = some l) : 0x80 ≤ l.low := by
  unfold lead? at h
  repeat' split at h
  all_goals simp only [Option.some.injEq, reduceCtorEq] at h
  all_goals simp [← h]

section

variable {b : UInt8} (ascii : b.toNat < 0x80)
include ascii

theorem exists_readOwed_concat {low : Nat} (hlow : 0x80 ≤ low) (owed high bits : Nat)
    (bytes : List UInt8) :
    ∃ rest, (readOwed owed low high bits (bytes ++ [b])).2 = rest ++ [b] ∧
      rest.length ≤ bytes.length := by
  induction owed generalizing low high bits bytes with
  | zero => exact ⟨bytes, rfl, Nat.le_refl _⟩
  | succ owed ih =>
      cases bytes with
      | nil =>
          refine ⟨[], ?_, Nat.le_refl _⟩
          rw [List.nil_append, readOwed, if_neg (by omega)]
      | cons x bytes =>
          rw [List.cons_append, readOwed]
          split
          · obtain ⟨rest, hrest, hlength⟩ := ih (Nat.le_refl 0x80) 0xBF _ bytes
            exact ⟨rest, hrest, Nat.le_succ_of_le hlength⟩
          · exact ⟨x :: bytes, rfl, Nat.le_refl _⟩

theorem exists_readChar_concat (x : UInt8) (bytes : List UInt8) :
    ∃ rest, (readChar x (bytes ++ [b])).2 = rest ++ [b] ∧ rest.length ≤ bytes.length := by
  rw [readChar]
  split
  · exact ⟨bytes, rfl, Nat.le_refl _⟩
  · split
    · exact ⟨bytes, rfl, Nat.le_refl _⟩
    · next l hl => exact exists_readOwed_concat ascii (low_of_lead? hl) _ _ _ bytes

theorem mem_scan_concat (bytes : List UInt8) :
    some (Char.ofNat b.toNat) ∈ scan (bytes ++ [b]) := by
  induction hlength : bytes.length using Nat.strongRecOn generalizing bytes with
  | ind n ih =>
      cases bytes with
      | nil => simp [scan, readChar, ascii]
      | cons x bytes =>
          obtain ⟨rest, hrest, hle⟩ := exists_readChar_concat ascii x bytes
          rw [List.cons_append, scan, hrest]
          rw [List.length_cons] at hlength
          exact List.mem_cons_of_mem _ (ih rest.length (by omega) rest rfl)

theorem mem_of_decode?_concat {bytes : List UInt8} {cs : List Char}
    (h : decode? (bytes ++ [b]) = some cs) : Char.ofNat b.toNat ∈ cs := by
  obtain ⟨c, hc, heq⟩ := exists_mem_of_mapM h (mem_scan_concat ascii bytes)
  cases heq
  exact hc

end

end Utf8

end CodeShelf.Text
