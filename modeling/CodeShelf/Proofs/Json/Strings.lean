import CodeShelf.Json.Reader
import Mathlib.Tactic.SplitIfs

/-!
# Strings of JSON

How strings are written: each character as it is, by a letter behind a backslash, by the escape
of its code unit, or by those of a surrogate pair.  The reader takes a string up to its closing
quote, one character at a time; between characters it has taken part of the next one.
-/

namespace CodeShelf.Json

open Text

/-! ## What strings look like -/

def letterEscapes : List (Char × Char) :=
  [('"', '"'), ('\\', '\\'), ('/', '/'), ('b', Char.ofNat 0x08), ('f', Char.ofNat 0x0C),
    ('n', '\n'), ('r', '\r'), ('t', '\t')]

def hexNumber? (n : Nat) (digits : List Char) : Option Nat :=
  digits.foldlM (fun n c => (hexValue? c).map (n * 16 + ·)) n

inductive UnitText : Nat → List Char → Prop
  | intro {n : Nat} {digits : List Char} (four : digits.length = 4)
      (value : hexNumber? 0 digits = some n) : UnitText n ('\\' :: 'u' :: digits)

/-- A character as it is written in a string: as it is if it is no quote, no backslash and no
control; by a letter; by the escape of its code unit; or by the escapes of both code units of a
surrogate pair. -/
inductive CharText : Char → List Char → Prop
  | raw {c : Char} (quote : c ≠ '"') (backslash : c ≠ '\\') (control : 0x20 ≤ c.toNat) :
      CharText c [c]
  | letter {letter c : Char} (h : (letter, c) ∈ letterEscapes) : CharText c ['\\', letter]
  | single {n : Nat} {text : List Char} (h : UnitText n text)
      (scalar : n < 0xD800 ∨ 0xE000 ≤ n) : CharText (Char.ofNat n) text
  | pair {high low : Nat} {text text' : List Char} (h : UnitText high text)
      (h' : UnitText low text') (isHigh : 0xD800 ≤ high ∧ high < 0xDC00)
      (isLow : 0xDC00 ≤ low ∧ low < 0xE000) :
      CharText (Char.ofNat (0x10000 + (high - 0xD800) * 0x400 + (low - 0xDC00))) (text ++ text')

inductive CharsText : List Char → List Char → Prop
  | nil : CharsText [] []
  | cons {c : Char} {cs text texts : List Char} (h : CharText c text) (h' : CharsText cs texts) :
      CharsText (c :: cs) (text ++ texts)

inductive StringText : String → List Char → Prop
  | intro {s : String} {text : List Char} (h : CharsText s.toList text) :
      StringText s ('"' :: (text ++ ['"']))

theorem escapeLetter?_eq_some_iff {letter c : Char} :
    escapeLetter? letter = some c ↔ (letter, c) ∈ letterEscapes := by
  simp only [letterEscapes, List.mem_cons, Prod.mk.injEq, List.not_mem_nil, or_false]
  unfold escapeLetter?
  split <;> simp_all [eq_comm]

theorem hexNumber?_concat (n : Nat) (digits : List Char) (c : Char) :
    hexNumber? n (digits ++ [c]) =
      (hexNumber? n digits).bind fun n => (hexValue? c).map (n * 16 + ·) := by
  simp [hexNumber?, List.foldlM_append]

/-! ## What is written is read -/

theorem readString_of_step {state next : StringState} {c : Char} (unquoted : c ≠ '"')
    (h : stringStep state c = some (none, next)) (rest : List Char) :
    readString state (c :: rest) = readString next rest := by
  rw [readString, if_neg (by simp [unquoted]), h]

theorem readString_hex {left value n : Nat} {digits : List Char} (count : digits.length = left + 1)
    (hvalue : hexNumber? value digits = some n) {high : Option Nat} {out : Option Char}
    {next : StringState} (closes : closeEscape high n = some (out, next)) (rest : List Char) :
    readString (.hex left value high) (digits ++ rest) =
      (readString next rest).map fun r => (out.toList ++ r.1, r.2) := by
  induction digits generalizing left value with
  | nil => cases count
  | cons c digits ih =>
      simp only [hexNumber?, List.foldlM_cons, Option.bind_eq_bind, Option.bind_eq_some_iff,
        Option.map_eq_some_iff] at hvalue
      obtain ⟨_, ⟨v, hv, rfl⟩, hvalue⟩ := hvalue
      cases left with
      | zero =>
          obtain rfl := List.length_eq_zero_iff.mp (Nat.succ.inj count)
          cases hvalue
          cases out <;> simp [readString, stringStep, hv, closes]
      | succ left =>
          rw [← ih (Nat.succ.inj count) hvalue]
          simp [readString, stringStep, hv]

theorem readString_unitText {n : Nat} {text : List Char} (h : UnitText n text)
    {state : StringState} {high : Option Nat}
    (opens : stringStep state '\\' = some (none, .escape high)) {out : Option Char}
    {next : StringState} (closes : closeEscape high n = some (out, next)) (rest : List Char) :
    readString state (text ++ rest) =
      (readString next rest).map fun r => (out.toList ++ r.1, r.2) := by
  obtain ⟨four, value⟩ := h
  rw [← readString_hex four value closes rest, List.cons_append, List.cons_append,
    readString_of_step (by decide) opens, readString_of_step (by decide) rfl]

theorem readString_charText {c : Char} {text : List Char} (h : CharText c text)
    (rest : List Char) :
    readString .plain (text ++ rest) =
      (readString .plain rest).map fun r => (c :: r.1, r.2) := by
  have opens : stringStep .plain '\\' = some (none, .escape none) := rfl
  cases h with
  | raw quote backslash control =>
      have hcontrol : ¬ c.toNat < 0x20 := Nat.not_lt.mpr control
      simp [readString, stringStep, quote, backslash, hcontrol]
  | @letter letter _ hletter =>
      have hu : letter ≠ 'u' := by
        rintro rfl
        cases escapeLetter?_eq_some_iff.mpr hletter
      simp [readString, stringStep, hu, escapeLetter?_eq_some_iff.mpr hletter]
  | @single n _ hunit scalar =>
      have closes : closeEscape none n = some (some (Char.ofNat n), .plain) := by
        have hhigh : isHighSurrogate n = false := by simp [isHighSurrogate]; omega
        have hlow : isLowSurrogate n = false := by simp [isLowSurrogate]; omega
        simp [closeEscape, hhigh, hlow]
      exact readString_unitText hunit opens closes rest
  | @pair high low _ _ hunit hunit' isHigh isLow =>
      have closes : closeEscape none high = some (none, .paired high) := by
        have hhigh : isHighSurrogate high = true := by simp [isHighSurrogate]; omega
        simp [closeEscape, hhigh]
      have closes' : closeEscape (some high) low =
          some (some (Char.ofNat (0x10000 + (high - 0xD800) * 0x400 + (low - 0xDC00))),
            .plain) := by
        have hlow : isLowSurrogate low = true := by simp [isLowSurrogate]; omega
        simp [closeEscape, hlow]
      rw [List.append_assoc, readString_unitText hunit opens closes,
        readString_unitText hunit' rfl closes']
      simp [Function.comp_def]

theorem readString_charsText {cs text : List Char} (h : CharsText cs text) (rest : List Char) :
    readString .plain (text ++ '"' :: rest) = some (cs, rest) := by
  induction h with
  | nil => simp [readString]
  | cons h h' ih => rw [List.append_assoc, readString_charText h, ih, Option.map_some]

/-! ## What is read is written -/

/-- What stands before an escape: nothing, or the first escape of a pair. -/
inductive Opened : Option Nat → List Char → Prop
  | first : Opened none []
  | second {high : Nat} {text : List Char} (h : UnitText high text)
      (isHigh : 0xD800 ≤ high ∧ high < 0xDC00) : Opened (some high) text

/-- What the reader has taken of the next character when it is in a state. -/
inductive Taken : StringState → List Char → Prop
  | plain : Taken .plain []
  | paired {high : Nat} {text : List Char} (h : Opened (some high) text) :
      Taken (.paired high) text
  | escape {high : Option Nat} {text : List Char} (h : Opened high text) :
      Taken (.escape high) (text ++ ['\\'])
  | hex {high : Option Nat} {left value : Nat} {text digits : List Char} (h : Opened high text)
      (count : digits.length + left = 3) (hvalue : hexNumber? 0 digits = some value) :
      Taken (.hex left value high) (text ++ '\\' :: 'u' :: digits)

theorem Opened.closes {high : Option Nat} {text unit : List Char} {n : Nat} {out : Option Char}
    {next : StringState} (h : Opened high text) (hunit : UnitText n unit)
    (hstep : closeEscape high n = some (out, next)) :
    out = none ∧ Taken next (text ++ unit) ∨
      ∃ d, out = some d ∧ next = .plain ∧ CharText d (text ++ unit) := by
  cases h with
  | first =>
      simp only [closeEscape] at hstep
      split_ifs at hstep with hhigh hlow
      · cases hstep
        exact .inl ⟨rfl, .paired (.second hunit (by simpa [isHighSurrogate] using hhigh))⟩
      · cases hstep
        refine .inr ⟨_, rfl, rfl, .single hunit ?_⟩
        simp only [isHighSurrogate, isLowSurrogate, Bool.and_eq_true, decide_eq_true_eq]
          at hhigh hlow
        omega
  | second hfirst isHigh =>
      simp only [closeEscape] at hstep
      split_ifs at hstep with hlow
      cases hstep
      exact .inr ⟨_, rfl, rfl, .pair hfirst hunit isHigh (by simpa [isLowSurrogate] using hlow)⟩

theorem Taken.step {state next : StringState} {taken : List Char} {c : Char} {out : Option Char}
    (h : Taken state taken) (unquoted : ¬ (c = '"' ∧ state = .plain))
    (hstep : stringStep state c = some (out, next)) :
    out = none ∧ Taken next (taken ++ [c]) ∨
      ∃ d, out = some d ∧ next = .plain ∧ CharText d (taken ++ [c]) := by
  cases h with
  | plain =>
      simp only [stringStep] at hstep
      split_ifs at hstep with hbackslash hcontrol
      · cases hstep
        exact .inl ⟨rfl, hbackslash ▸ .escape .first⟩
      · cases hstep
        exact .inr ⟨c, rfl, rfl, .raw (by simpa using unquoted) hbackslash (by omega)⟩
  | paired hopened =>
      simp only [stringStep] at hstep
      split_ifs at hstep with hbackslash
      cases hstep
      exact .inl ⟨rfl, hbackslash ▸ .escape hopened⟩
  | escape hopened =>
      simp only [stringStep] at hstep
      split_ifs at hstep with hu hhigh
      · cases hstep
        subst hu
        refine .inl ⟨rfl, ?_⟩
        rw [List.append_assoc]
        exact .hex hopened rfl rfl
      · obtain ⟨d, hd, heq⟩ := Option.map_eq_some_iff.mp hstep
        cases heq
        cases hopened with
        | first => exact .inr ⟨d, rfl, rfl, .letter (escapeLetter?_eq_some_iff.mp hd)⟩
        | second => exact absurd rfl hhigh
  | @hex high left value text digits hopened count hvalue =>
      simp only [stringStep, Option.bind_eq_bind, Option.bind_eq_some_iff] at hstep
      obtain ⟨v, hv, hstep⟩ := hstep
      have hdigits : hexNumber? 0 (digits ++ [c]) = some (value * 16 + v) := by
        simp [hexNumber?_concat, hvalue, hv]
      have htext : text ++ '\\' :: 'u' :: digits ++ [c] =
          text ++ '\\' :: 'u' :: (digits ++ [c]) := by
        simp
      rw [htext]
      cases left with
      | zero =>
          refine hopened.closes (.intro ?_ hdigits) hstep
          simpa using count
      | succ left =>
          cases hstep
          refine .inl ⟨rfl, .hex hopened ?_ hdigits⟩
          rw [List.length_append, List.length_singleton]
          omega

theorem charsText_of_readString {state : StringState} {cs taken s rest : List Char}
    (h : readString state cs = some (s, rest)) (htaken : Taken state taken) :
    ∃ text, taken ++ cs = text ++ '"' :: rest ∧ CharsText s text := by
  -- What was taken stands in front of the text that is left, whatever the state.
  induction cs generalizing state taken s with
  | nil => cases h
  | cons c cs ih =>
      rw [readString] at h
      split_ifs at h with hquote
      · cases h
        obtain ⟨rfl, rfl⟩ := hquote
        cases htaken
        exact ⟨[], rfl, .nil⟩
      · have hshift : taken ++ c :: cs = taken ++ [c] ++ cs := by simp
        split at h
        · cases h
        · next next hstep =>
            rcases htaken.step hquote hstep with ⟨-, hnext⟩ | ⟨d, hd, -⟩
            · rw [hshift]
              exact ih h hnext
            · cases hd
        · next d next hstep =>
            obtain ⟨r, hr, heq⟩ := Option.map_eq_some_iff.mp h
            cases heq
            rcases htaken.step hquote hstep with ⟨hd, -⟩ | ⟨_, hd, rfl, htext⟩
            · cases hd
            · cases hd
              obtain ⟨text, hcs, hchars⟩ := ih hr .plain
              refine ⟨taken ++ [c] ++ text, ?_, .cons htext hchars⟩
              rw [List.nil_append] at hcs
              rw [hshift, hcs, List.append_assoc (taken ++ [c]) text]

end CodeShelf.Json
