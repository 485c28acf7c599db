import CodeShelf.Json.Reader
import Mathlib.Data.List.TakeWhile

/-!
# Numerals of JSON

How numbers are written: a sign, whole digits, a fraction and an exponent.  The reader takes a
numeral from the start of a text if what stands behind it does not go on with it, and takes
nothing else.
-/

namespace CodeShelf.Json

open Number

/-! ## What numerals look like -/

def Digits (digits : List Char) : Prop :=
  digits ≠ [] ∧ ∀ c ∈ digits, isDigit c = true

inductive FractionText : Option (List Char) → List Char → Prop
  | absent : FractionText none []
  | present {digits : List Char} (h : Digits digits) : FractionText (some digits) ('.' :: digits)

inductive ExponentText : Option Int → List Char → Prop
  | absent : ExponentText none []
  | positive {letter : Char} {sign digits : List Char} (marked : letter = 'e' ∨ letter = 'E')
      (signed : sign = [] ∨ sign = ['+']) (h : Digits digits) :
      ExponentText (some (digitsValue 0 digits)) (letter :: (sign ++ digits))
  | negative {letter : Char} {digits : List Char} (marked : letter = 'e' ∨ letter = 'E')
      (h : Digits digits) :
      ExponentText (some (-(digitsValue 0 digits : Int))) (letter :: '-' :: digits)

/-- A numeral as it is written.  Only zero starts with a zero. -/
inductive NumeralText : Numeral → List Char → Prop
  | intro (negative : Bool) {whole : List Char} {fraction : Option (List Char)}
      {exponent : Option Int} {fractionText exponentText : List Char} (digits : Digits whole)
      (unpadded : whole.head? = some '0' → whole.length = 1)
      (h : FractionText fraction fractionText) (h' : ExponentText exponent exponentText) :
      NumeralText ⟨negative, whole, fraction, exponent⟩
        ((if negative then ['-'] else []) ++ (whole ++ (fractionText ++ exponentText)))

/-! ## Reading numerals -/

def NoDigit (rest : List Char) : Prop :=
  ∀ c ∈ rest.head?, isDigit c = false

theorem readDigits_eq_some_iff {cs digits rest : List Char} :
    readDigits cs = some (digits, rest) ↔ cs = digits ++ rest ∧ Digits digits ∧ NoDigit rest := by
  constructor
  · intro h
    have hparts := List.takeWhile_append_dropWhile (p := isDigit) (l := cs)
    rw [readDigits] at h
    split at h
    · cases h
    · next d more htake =>
        cases h
        rw [htake] at hparts
        refine ⟨hparts.symm, ⟨by simp, fun c hc => ?_⟩, fun c hc => ?_⟩
        · rw [← htake] at hc
          exact List.mem_takeWhile_imp hc
        · have hhead := List.head?_dropWhile_not isDigit cs
          rw [hc] at hhead
          simpa using hhead
  · rintro ⟨rfl, ⟨hne, hdigits⟩, ends⟩
    have htake : rest.takeWhile isDigit = [] := by
      cases rest with
      | nil => rfl
      | cons c rest => rw [List.takeWhile_cons, if_neg (by simp [ends c rfl])]
    have hdrop : rest.dropWhile isDigit = rest := by
      cases rest with
      | nil => rfl
      | cons c rest => rw [List.dropWhile_cons, if_neg (by simp [ends c rfl])]
    rw [readDigits, List.takeWhile_append_of_pos hdigits, List.dropWhile_append_of_pos hdigits,
      htake, hdrop, List.append_nil]
    obtain ⟨d, more, rfl⟩ := List.exists_cons_of_ne_nil hne
    rfl

theorem readWhole_eq_some_iff {cs whole rest : List Char} :
    readWhole cs = some (whole, rest) ↔
      cs = whole ++ rest ∧ (Digits whole ∧ (whole.head? = some '0' → whole.length = 1)) ∧
        NoDigit rest := by
  simp only [readWhole, Option.bind_eq_bind, Option.bind_eq_some_iff, Prod.exists,
    Option.ite_none_left_eq_some]
  constructor
  · rintro ⟨digits, rest', hread, hzero, heq⟩
    cases heq
    obtain ⟨hparts, hdigits, hends⟩ := readDigits_eq_some_iff.mp hread
    exact ⟨hparts, ⟨hdigits, by simpa using hzero⟩, hends⟩
  · rintro ⟨hparts, ⟨hdigits, hzero⟩, hends⟩
    exact ⟨whole, rest, readDigits_eq_some_iff.mpr ⟨hparts, hdigits, hends⟩, by simpa using hzero,
      rfl⟩

theorem fractionText_of_readFraction {cs rest : List Char} {fraction : Option (List Char)}
    (h : readFraction cs = some (fraction, rest)) :
    ∃ text, cs = text ++ rest ∧ FractionText fraction text := by
  unfold readFraction at h
  split at h
  · simp only [Option.bind_eq_bind, Option.bind_eq_some_iff, Prod.exists] at h
    obtain ⟨digits, rest', hread, heq⟩ := h
    cases heq
    obtain ⟨rfl, hdigits, -⟩ := readDigits_eq_some_iff.mp hread
    exact ⟨_, rfl, .present hdigits⟩
  · cases h
    exact ⟨[], rfl, .absent⟩

theorem readFraction_of_fractionText {text : List Char} {fraction : Option (List Char)}
    (h : FractionText fraction text) {rest : List Char} (ends : NoDigit rest)
    (pointless : rest.head? ≠ some '.') :
    readFraction (text ++ rest) = some (fraction, rest) := by
  cases h with
  | absent =>
      unfold readFraction
      split
      · next heq => exact absurd (congrArg List.head? heq) pointless
      · rfl
  | present hdigits =>
      simp [readFraction, readDigits_eq_some_iff.mpr ⟨rfl, hdigits, ends⟩]

theorem readSign_cases (cs : List Char) :
    (readSign cs).1 = false ∧ cs = '+' :: (readSign cs).2 ∨
      (readSign cs).1 = true ∧ cs = '-' :: (readSign cs).2 ∨
      (readSign cs).1 = false ∧ cs = (readSign cs).2 := by
  unfold readSign
  split
  · exact .inl ⟨rfl, rfl⟩
  · exact .inr (.inl ⟨rfl, rfl⟩)
  · exact .inr (.inr ⟨rfl, rfl⟩)

theorem Digits.readSign {digits : List Char} (h : Digits digits) (rest : List Char) :
    readSign (digits ++ rest) = (false, digits ++ rest) := by
  obtain ⟨hne, hdigits⟩ := h
  obtain ⟨d, more, rfl⟩ := List.exists_cons_of_ne_nil hne
  have hdigit := hdigits d List.mem_cons_self
  unfold Json.readSign
  split
  · next heq =>
      cases heq
      cases hdigit
  · next heq =>
      cases heq
      cases hdigit
  · rfl

theorem exponentText_of_readExponent {cs rest : List Char} {exponent : Option Int}
    (h : readExponent cs = some (exponent, rest)) :
    ∃ text, cs = text ++ rest ∧ ExponentText exponent text := by
  cases cs with
  | nil =>
      cases h
      exact ⟨[], rfl, .absent⟩
  | cons c cs =>
      rw [readExponent] at h
      split_ifs at h with marked
      · simp only [Option.bind_eq_bind, Option.bind_eq_some_iff, Prod.exists] at h
        obtain ⟨digits, rest', hread, heq⟩ := h
        cases heq
        obtain ⟨hparts, hdigits, -⟩ := readDigits_eq_some_iff.mp hread
        rcases readSign_cases cs with ⟨hsign, hcs⟩ | ⟨hsign, hcs⟩ | ⟨hsign, hcs⟩
        · refine ⟨c :: '+' :: digits, ?_, ?_⟩
          · rw [hcs, hparts, List.cons_append, List.cons_append]
          · rw [hsign]
            exact .positive marked (.inr rfl) hdigits
        · refine ⟨c :: '-' :: digits, ?_, ?_⟩
          · rw [hcs, hparts, List.cons_append, List.cons_append]
          · rw [hsign]
            exact .negative marked hdigits
        · refine ⟨c :: digits, ?_, ?_⟩
          · rw [hcs, hparts, List.cons_append]
          · rw [hsign]
            exact .positive marked (.inl rfl) hdigits
      · cases h
        exact ⟨[], rfl, .absent⟩

/-- Whether what stands behind a number does not go on with it. -/
def Ends (rest : List Char) : Prop :=
  ∀ c ∈ rest.head?, isDigit c = false ∧ c ≠ '.' ∧ c ≠ 'e' ∧ c ≠ 'E'

theorem ends_nil : Ends [] := by simp [Ends]

theorem readExponent_of_exponentText {text : List Char} {exponent : Option Int}
    (h : ExponentText exponent text) {rest : List Char} (ends : Ends rest) :
    readExponent (text ++ rest) = some (exponent, rest) := by
  have hrest : NoDigit rest := fun c hc => (ends c hc).1
  have hread : ∀ {digits : List Char}, Digits digits →
      readDigits (digits ++ rest) = some (digits, rest) :=
    fun hdigits => readDigits_eq_some_iff.mpr ⟨rfl, hdigits, hrest⟩
  cases h with
  | absent =>
      cases rest with
      | nil => rfl
      | cons c rest => rw [List.nil_append, readExponent, if_neg (by simp [(ends c rfl).2.2])]
  | positive marked signed hdigits =>
      rename_i sign digits
      have hsign : readSign (sign ++ (digits ++ rest)) = (false, digits ++ rest) := by
        rcases signed with rfl | rfl
        · exact hdigits.readSign rest
        · rfl
      simp [readExponent, marked, hsign, hread hdigits]
  | negative marked hdigits => simp [readExponent, marked, readSign, hread hdigits]

def readUnsigned (negative : Bool) (cs : List Char) : Option (Numeral × List Char) := do
  let (whole, cs) ← readWhole cs
  let (fraction, cs) ← readFraction cs
  let (exponent, cs) ← readExponent cs
  some (⟨negative, whole, fraction, exponent⟩, cs)

theorem readNumeral_minus (cs : List Char) : readNumeral ('-' :: cs) = readUnsigned true cs := rfl

theorem readNumeral_of_ne {cs : List Char} (h : cs.head? ≠ some '-') :
    readNumeral cs = readUnsigned false cs := by
  cases cs with
  | nil => rfl
  | cons c cs =>
      have hc : c ≠ '-' := by simpa using h
      simp [readNumeral, readUnsigned, hc]

theorem numeralText_of_readUnsigned {negative : Bool} {cs rest : List Char} {n : Numeral}
    (h : readUnsigned negative cs = some (n, rest)) :
    ∃ text, (if negative then ['-'] else []) ++ cs = text ++ rest ∧ NumeralText n text := by
  simp only [readUnsigned, Option.bind_eq_bind, Option.bind_eq_some_iff, Prod.exists] at h
  obtain ⟨whole, cs₁, hwhole, fraction, cs₂, hfraction, exponent, cs₃, hexponent, heq⟩ := h
  cases heq
  obtain ⟨rfl, ⟨hdigits, hzero⟩, -⟩ := readWhole_eq_some_iff.mp hwhole
  obtain ⟨fractionText, rfl, written⟩ := fractionText_of_readFraction hfraction
  obtain ⟨exponentText, rfl, written'⟩ := exponentText_of_readExponent hexponent
  exact ⟨_, by simp only [List.append_assoc], .intro negative hdigits hzero written written'⟩

theorem numeralText_of_readNumeral {cs rest : List Char} {n : Numeral}
    (h : readNumeral cs = some (n, rest)) : ∃ text, cs = text ++ rest ∧ NumeralText n text := by
  by_cases hsign : cs.head? = some '-'
  · obtain ⟨more, rfl⟩ := List.head?_eq_some_iff.mp hsign
    rw [readNumeral_minus] at h
    exact numeralText_of_readUnsigned h
  · rw [readNumeral_of_ne hsign] at h
    exact numeralText_of_readUnsigned h

theorem ExponentText.noDigit {exponent : Option Int} {text rest : List Char}
    (h : ExponentText exponent text) (ends : Ends rest) :
    NoDigit (text ++ rest) ∧ (text ++ rest).head? ≠ some '.' := by
  have hletter : ∀ {letter : Char}, letter = 'e' ∨ letter = 'E' →
      isDigit letter = false ∧ letter ≠ '.' := by
    rintro letter (rfl | rfl) <;> decide
  cases h with
  | absent =>
      refine ⟨fun c hc => (ends c hc).1, fun hpoint => ?_⟩
      exact (ends '.' hpoint).2.1 rfl
  | positive marked signed hdigits => simpa [NoDigit] using hletter marked
  | negative marked hdigits => simpa [NoDigit] using hletter marked

theorem FractionText.noDigit {fraction : Option (List Char)} {text rest : List Char}
    (h : FractionText fraction text) (ends : NoDigit rest) : NoDigit (text ++ rest) := by
  cases h with
  | absent => exact ends
  | present hdigits =>
      intro c hc
      cases hc
      decide

theorem readNumeral_of_numeralText {n : Numeral} {text rest : List Char} (h : NumeralText n text)
    (ends : Ends rest) : readNumeral (text ++ rest) = some (n, rest) := by
  obtain ⟨negative, hdigits, hzero, hfraction, hexponent⟩ := h
  rename_i whole fraction exponent fractionText exponentText
  -- Each part ends where the next one starts, so they are settled from the last one on.
  obtain ⟨behind, pointless⟩ := hexponent.noDigit ends
  have hread : readUnsigned negative (whole ++ (fractionText ++ (exponentText ++ rest))) =
      some (⟨negative, whole, fraction, exponent⟩, rest) := by
    simp [readUnsigned,
      readWhole_eq_some_iff.mpr ⟨rfl, ⟨hdigits, hzero⟩, hfraction.noDigit behind⟩,
      readFraction_of_fractionText hfraction behind pointless,
      readExponent_of_exponentText hexponent ends]
  cases negative with
  | true => simpa [readNumeral_minus] using hread
  | false =>
      have hsign : (whole ++ (fractionText ++ (exponentText ++ rest))).head? ≠ some '-' := by
        obtain ⟨d, more, rfl⟩ := List.exists_cons_of_ne_nil hdigits.1
        have hdigit := hdigits.2 d List.mem_cons_self
        rintro hd
        cases hd
        cases hdigit
      rw [← readNumeral_of_ne hsign] at hread
      simpa using hread

def NumberText (n : JsonNumber) (text : List Char) : Prop :=
  ∃ numeral, NumeralText numeral text ∧ numeral.toNumber? = some n

theorem numberText_of_readNumber {cs rest : List Char} {v : Json}
    (h : readNumber cs = some (v, rest)) :
    ∃ n text, v = .num n ∧ cs = text ++ rest ∧ NumberText n text := by
  simp only [readNumber, Option.bind_eq_bind, Option.bind_eq_some_iff, Prod.exists] at h
  obtain ⟨numeral, cs', hnumeral, n, hnumber, heq⟩ := h
  cases heq
  obtain ⟨text, rfl, htext⟩ := numeralText_of_readNumeral hnumeral
  exact ⟨n, text, rfl, rfl, numeral, htext, hnumber⟩

theorem readNumber_of_numberText {n : JsonNumber} {text rest : List Char} (h : NumberText n text)
    (ends : Ends rest) : readNumber (text ++ rest) = some (.num n, rest) := by
  obtain ⟨numeral, htext, hnumber⟩ := h
  simp [readNumber, readNumeral_of_numeralText htext ends, hnumber]

/-! ## How numbers start -/

def StartsNumber (c : Char) : Prop :=
  c = '-' ∨ isDigit c = true

instance (c : Char) : Decidable (StartsNumber c) :=
  inferInstanceAs (Decidable (_ ∨ _))

theorem StartsNumber.ne {c d : Char} (h : StartsNumber c) (hd : ¬ StartsNumber d) : c ≠ d := by
  rintro rfl
  exact hd h

theorem StartsNumber.isSpace {c : Char} (h : StartsNumber c) : isSpace c = false := by
  simp only [Json.isSpace, Bool.or_eq_false_iff, beq_eq_false_iff_ne]
  exact ⟨⟨⟨h.ne (by decide), h.ne (by decide)⟩, h.ne (by decide)⟩, h.ne (by decide)⟩

theorem NumeralText.exists_cons {n : Numeral} {text : List Char} (h : NumeralText n text) :
    ∃ c cs, text = c :: cs ∧ StartsNumber c := by
  obtain ⟨negative, hdigits, -, -, -⟩ := h
  cases negative with
  | true => exact ⟨'-', _, rfl, .inl rfl⟩
  | false =>
      obtain ⟨d, more, rfl⟩ := List.exists_cons_of_ne_nil hdigits.1
      exact ⟨d, _, rfl, .inr (hdigits.2 d List.mem_cons_self)⟩

end CodeShelf.Json
