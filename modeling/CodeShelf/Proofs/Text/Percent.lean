import CodeShelf.Proofs.Text.Utf8
import CodeShelf.Text.Percent

/-!
# Segments are read back

A text that is written as one path segment has no slash in it, and undoing its escapes gives
the text back, whatever characters it has.
-/

namespace CodeShelf.Text

theorem Utf8.decode?_encode (cs : List Char) : Utf8.decode? (Utf8.encode cs) = some cs := by
  rw [Utf8.decode?, Utf8.scan_encode]
  induction cs with
  | nil => rfl
  | cons c cs ih => simp [List.mapM_cons, ih]

namespace Percent

theorem hexValue?_digit {n : Nat} (h : n < 16) : hexValue? (upperHexDigit n) = some n :=
  hexValue?_upperHexDigit ⟨n, h⟩

theorem decode_escape (b : UInt8) (rest : List Char) :
    decode (escape b ++ rest) = b :: decode rest := by
  have hb : b.toNat < 256 := b.toNat_lt
  have hbyte : UInt8.ofNat (b.toNat / 16 * 16 + b.toNat % 16) = b := by
    rw [Nat.div_add_mod']
    exact UInt8.ofNat_toNat
  simp only [escape, List.cons_append, List.nil_append, decode]
  rw [hexValue?_digit (by omega), hexValue?_digit (by omega)]
  simp only [hbyte]

theorem decode_flatMap_escape (bytes : List UInt8) (rest : List Char) :
    decode (bytes.flatMap escape ++ rest) = bytes ++ decode rest := by
  induction bytes with
  | nil => rfl
  | cons b bytes ih =>
      rw [List.flatMap_cons, List.append_assoc, decode_escape, ih, List.cons_append]

theorem decode_cons_of_ne {c : Char} (h : c ≠ '%') (rest : List Char) :
    decode (c :: rest) = String.utf8EncodeChar c ++ decode rest := by
  rw [decode]
  rintro a b rest' rfl
  exact absurd rfl h

theorem isUnreserved_percent : isUnreserved '%' = false := by
  decide

theorem decode_segment (cs : List Char) : decode (segment cs) = Utf8.encode cs := by
  induction cs with
  | nil => rfl
  | cons c cs ih =>
      rw [segment, encode] at ih ⊢
      rw [List.flatMap_cons, Utf8.encode, List.flatMap_cons]
      split
      · next hkeep =>
          have hne : c ≠ '%' := by
            rintro rfl
            cases isUnreserved_percent.symm.trans hkeep
          rw [List.singleton_append, decode_cons_of_ne hne, ih, Utf8.encode]
      · rw [escapeChar, decode_flatMap_escape, ih, Utf8.encode]

theorem segment_injective : Function.Injective segment := by
  intro cs cs' h
  have hbytes := congrArg decode h
  rw [decode_segment, decode_segment] at hbytes
  have htexts := congrArg Utf8.decode? hbytes
  rw [Utf8.decode?_encode, Utf8.decode?_encode] at htexts
  exact Option.some.inj htexts

theorem mem_escape {c : Char} {b : UInt8} (h : c ∈ escape b) :
    c = '%' ∨ ∃ n : Fin 16, c = upperHexDigit n := by
  have hb : b.toNat < 256 := b.toNat_lt
  simp only [escape, List.mem_cons, List.not_mem_nil, or_false] at h
  rcases h with rfl | rfl | rfl
  · exact .inl rfl
  · exact .inr ⟨⟨b.toNat / 16, by omega⟩, rfl⟩
  · exact .inr ⟨⟨b.toNat % 16, by omega⟩, rfl⟩

theorem mem_encode {keep : Char → Bool} {c : Char} {cs : List Char} (h : c ∈ encode keep cs) :
    keep c = true ∨ c = '%' ∨ ∃ n : Fin 16, c = upperHexDigit n := by
  rw [encode, List.mem_flatMap] at h
  obtain ⟨d, -, hd⟩ := h
  split at hd
  · next hkeep =>
      rw [List.mem_singleton.mp hd]
      exact .inl hkeep
  · rw [escapeChar, List.mem_flatMap] at hd
    obtain ⟨b, -, hb⟩ := hd
    exact .inr (mem_escape hb)

theorem not_mem_encode {keep : Char → Bool} {c : Char} (hkeep : keep c = false) (hpercent : c ≠ '%')
    (hdigit : ∀ n : Fin 16, c ≠ upperHexDigit n) (cs : List Char) : c ∉ encode keep cs := by
  intro h
  rcases mem_encode h with hkept | rfl | ⟨n, rfl⟩
  · rw [hkeep] at hkept
    cases hkept
  · exact hpercent rfl
  · exact hdigit n rfl

theorem encode_of_kept {keep : Char → Bool} {cs : List Char} (h : ∀ c ∈ cs, keep c = true) :
    encode keep cs = cs := by
  induction cs with
  | nil => rfl
  | cons c cs ih =>
      rw [List.forall_mem_cons] at h
      rw [encode, List.flatMap_cons, if_pos h.1, ← encode, ih h.2]
      rfl

theorem decode_concat {c : Char} (h : hexValue? c = none) (cs : List Char) :
    decode (cs ++ [c]) = decode cs ++ String.utf8EncodeChar c := by
  have hlast : decode [c] = String.utf8EncodeChar c := by
    rw [decode, decode, List.append_nil]
    simp
  fun_induction decode cs with
  | case1 => exact hlast
  | case2 a b rest x y hx hy ih => simp only [List.cons_append, decode, hx, hy, ih]
  | case3 a b rest hnone ih =>
      rw [List.cons_append, List.cons_append, List.cons_append, decode]
      split
      · next x y hx hy => exact absurd hy (hnone x y hx)
      · rw [← List.cons_append, ← List.cons_append, ih, List.cons_append]
  | case4 d rest hplain ih =>
      rw [List.cons_append]
      by_cases hd : d = '%'
      · -- An escape that the text breaks off is not completed by the character.
        subst hd
        match rest, hplain with
        | [], _ =>
            have hshort : decode ['%', c] = String.utf8EncodeChar '%' ++ decode [c] := by
              rw [decode]
              simp
            rw [List.nil_append, hshort, hlast, decode, List.append_nil]
        | [a], _ =>
            have hpercent : String.utf8EncodeChar '%' = [0x25] := rfl
            rw [List.cons_append, List.nil_append] at ih ⊢
            rw [decode, ih, hpercent]
            split
            · next hc => cases h.symm.trans hc
            · rfl
        | a :: b :: rest, hplain => exact absurd rfl (hplain a b rest rfl)
      · rw [decode_cons_of_ne hd, ih, List.append_assoc]

theorem slash_not_mem_segment (cs : List Char) : '/' ∉ segment cs :=
  not_mem_encode (by decide) (by decide) (by decide) cs

end Percent

end CodeShelf.Text
