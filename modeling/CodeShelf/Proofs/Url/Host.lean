import CodeShelf.Proofs.Text.Normal
import CodeShelf.Proofs.Text.Percent
import CodeShelf.Proofs.Url.Endpoint

/-!
# Hosts and ports with a control character behind them

A control character or a space at the end of an authority is part of its port or of its host.  A
port has digits alone, and no way of writing a host makes such a character vanish.
-/

namespace CodeShelf.Url

open Text

variable {c : Char} (control : isOutside c = true)
include control

theorem toNat_of_isOutside : c.toNat ≤ 0x20 := by
  simpa [isOutside] using control

theorem ne_of_isOutside {d : Char} (h : isOutside d = false) : c ≠ d := by
  rintro rfl
  cases control.symm.trans h

theorem readDomainText?_of_mem {cs : List Char} (hc : c ∈ cs) : readDomainText? cs = none := by
  have hcode := toNat_of_isOutside control
  have hread : readDomainChar? c = some [c] := by
    have hlower : c.toLower = c := by
      refine dif_neg fun h => ?_
      have hA : 65 ≤ c.toNat := UInt32.le_iff_toNat_le.mp h.1
      omega
    rw [readDomainChar?, if_pos (by omega), hlower]
  unfold readDomainText?
  cases htexts : cs.mapM readDomainChar? with
  | none => rfl
  | some texts =>
      obtain ⟨text, htext, heq⟩ := exists_mem_of_mapM htexts hc
      cases hread.symm.trans heq
      -- The character is its own text, and stays when the texts are composed.
      have hmem := mem_normalize_of_control hcode
        (List.mem_flatten.mpr ⟨[c], htext, List.mem_singleton_self c⟩)
      have hforbidden : (normalize texts.flatten).any isForbiddenInDomain = true :=
        List.any_eq_true.mpr ⟨c, hmem, by simp [isForbiddenInDomain, hcode]⟩
      simp only [hforbidden, if_true]

theorem domainToAscii_concat (written : List Char) :
    domainToAscii (written ++ [c]) = .error .invalidDomainName := by
  have hcode := toNat_of_isOutside control
  have hdigit : hexValue? c = none := by
    unfold hexValue?
    simp only
    rw [if_neg (by omega), if_neg (by omega), if_neg (by omega)]
  have hbyte : String.utf8EncodeChar c = [UInt8.ofNat c.toNat] := by
    have hv : c.val.toNat = c.toNat := rfl
    rw [String.utf8EncodeChar, hv]
    simp [show c.toNat ≤ 127 by omega]
  have hnat : (UInt8.ofNat c.toNat).toNat = c.toNat :=
    UInt8.toNat_ofNat_of_lt' (Nat.lt_of_le_of_lt hcode (by decide))
  have hnone : readLabels? (written ++ [c]) = none := by
    unfold readLabels?
    rw [Percent.decode_concat hdigit, hbyte]
    cases hdecode : Utf8.decode? (Percent.decode written ++ [UInt8.ofNat c.toNat]) with
    | none => rfl
    | some cs =>
        have hmem := Utf8.mem_of_decode?_concat (by omega) hdecode
        rw [hnat, Char.ofNat_toNat] at hmem
        simp [readDomainText?_of_mem control hmem]
  rw [domainToAscii, hnone]

theorem exists_readHost_concat (written : List Char) :
    ∃ e, readHost (written ++ [c]) = .error e := by
  have hbracket : c ≠ ']' := ne_of_isOutside control (by decide)
  unfold readHost
  split
  · next hnil => simp at hnil
  · next rest hrest =>
      have hend : ('[' :: rest).getLast? = some c := by rw [← hrest, List.getLast?_concat]
      have hlast : rest.getLast? ≠ some ']' := by
        intro hclosed
        rw [List.getLast?_cons, hclosed] at hend
        exact hbracket (Option.some.inj hend).symm
      exact ⟨_, if_neg hlast⟩
  · rw [domainToAscii_concat control]
    exact ⟨_, rfl⟩

theorem readPort_concat (scheme : String) (digits : List Char) :
    readPort scheme (some (digits ++ [c])) = .error .invalidPort := by
  have hcode := toNat_of_isOutside control
  have hdigit : c.isDigit = false := by
    rw [← Bool.not_eq_true]
    intro h
    have hrange := range_of_isDigit h
    omega
  have hall : (digits ++ [c]).all Char.isDigit = false := by simp [hdigit]
  unfold readPort
  split
  · next hnone => cases hnone
  · next hnil => simp at hnil
  · next written hwritten =>
      cases hwritten
      simp [hall]

theorem takeHost_concat (inBrackets : Bool) (cs : List Char) :
    (takeHost inBrackets cs = cs ∧ takeHost inBrackets (cs ++ [c]) = cs ++ [c]) ∨
      ∃ port, cs = takeHost inBrackets cs ++ ':' :: port ∧
        takeHost inBrackets (cs ++ [c]) = takeHost inBrackets cs := by
  have hcolon : c ≠ ':' := ne_of_isOutside control (by decide)
  have hopen : c ≠ '[' := ne_of_isOutside control (by decide)
  have hclose : c ≠ ']' := ne_of_isOutside control (by decide)
  induction cs generalizing inBrackets with
  | nil => exact .inl ⟨rfl, by simp [takeHost, hcolon, hopen, hclose]⟩
  | cons d cs ih =>
      by_cases hstop : d = ':' ∧ inBrackets = false
      · exact .inr ⟨cs, by simp [takeHost, hstop], by simp [takeHost, hstop]⟩
      · -- The first character is part of the host, and says whether brackets are open.
        obtain ⟨inBrackets', hnext⟩ : ∃ b, ∀ rest,
            takeHost inBrackets (d :: rest) = d :: takeHost b rest := by
          simp only [takeHost, if_neg hstop]
          split
          · exact ⟨true, fun _ => rfl⟩
          · split
            · exact ⟨false, fun _ => rfl⟩
            · exact ⟨inBrackets, fun _ => rfl⟩
        rw [List.cons_append, hnext, hnext]
        rcases ih inBrackets' with ⟨hhost, hwhole⟩ | ⟨port, hcs, hhost⟩
        · exact .inl ⟨by rw [hhost], by rw [hwhole]⟩
        · refine .inr ⟨port, ?_, by rw [hhost]⟩
          rw [List.cons_append, ← hcs]

theorem exists_readPlace_concat (scheme : String) (cs : List Char) :
    ∃ e, readPlace scheme (cs ++ [c]) = .error e := by
  have hat : (c != '@') = true := by simpa using ne_of_isOutside control (d := '@') (by decide)
  have htail : ((cs ++ [c]).reverse.takeWhile (· != '@')).reverse =
      (cs.reverse.takeWhile (· != '@')).reverse ++ [c] := by
    rw [List.reverse_append, List.reverse_singleton, List.singleton_append,
      List.takeWhile_cons, if_pos hat, List.reverse_cons]
  simp only [readPlace, splitAuthority, htail]
  generalize (cs.reverse.takeWhile (· != '@')).reverse = written
  rcases takeHost_concat control false written with ⟨-, hwhole⟩ | ⟨port, hwritten, hhost⟩
  · obtain ⟨e, he⟩ := exists_readHost_concat control written
    rw [hwhole, he]
    exact ⟨e, rfl⟩
  · have hport : ((written ++ [c]).drop (takeHost false written).length).tail? =
        some (port ++ [c]) := by
      have happend : written ++ [c] = takeHost false written ++ (':' :: port ++ [c]) := by
        rw [← List.append_assoc, ← hwritten]
      rw [happend, List.drop_left]
      rfl
    rw [hhost, hport, readPort_concat control]
    cases readHost (takeHost false written) with
    | error e => exact ⟨e, rfl⟩
    | ok host => exact ⟨.invalidPort, rfl⟩

end CodeShelf.Url
