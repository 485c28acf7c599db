import CodeShelf.Proofs.Transport.Http

/-!
# One id in many spellings

The service has written ids as texts and as numbers, under `id` members inside one another, and
as bodies that are no JSON at all.  All of them are read alike: a text stands for itself without
the blanks at its ends, and a number for its digits.  Whatever the body, an id that it stands
for is more than blanks and has none at its ends.
-/

namespace CodeShelf

open Text

/-! ## Numbers -/

namespace JsonNumber

def IsNumeric (c : Char) : Prop :=
  c.isDigit = true ∨ c = '-' ∨ c = '+' ∨ c = '.' ∨ c = 'e'

instance (c : Char) : Decidable (IsNumeric c) :=
  inferInstanceAs (Decidable (_ ∨ _))

theorem IsNumeric.isBlank {c : Char} (h : IsNumeric c) : isBlank c = false := by
  rcases h with hdigit | rfl | rfl | rfl | rfl
  · exact isBlank_of_isDigit hdigit
  all_goals decide

theorem isNumeric_natText (n : Nat) : ∀ c ∈ natText n, IsNumeric c := by
  intro c hc
  exact .inl (Nat.isDigit_of_mem_toDigits (by decide) (by decide) hc)

theorem isNumeric_intText (n : Int) : ∀ c ∈ intText n, IsNumeric c := by
  unfold intText
  split
  · rw [List.forall_mem_cons]
    exact ⟨by decide, isNumeric_natText _⟩
  · exact isNumeric_natText _

section

variable {digits : List Char} (h : ∀ c ∈ digits, IsNumeric c)
include h

theorem isNumeric_plainText (order : Int) : ∀ c ∈ plainText digits order, IsNumeric c := by
  have hzeros : ∀ n, ∀ c ∈ List.replicate n '0', IsNumeric c := by
    intro n c hc
    rw [List.eq_of_mem_replicate hc]
    decide
  unfold plainText
  split
  · simp only [List.forall_mem_append, List.forall_mem_cons]
    exact ⟨⟨by decide, by decide, hzeros _⟩, h⟩
  · simp only [List.forall_mem_append, List.forall_mem_cons]
    refine ⟨⟨fun c hc => h c (List.mem_of_mem_take hc), hzeros _⟩, by decide, ?_⟩
    split
    · simp only [List.forall_mem_singleton]
      decide
    · exact fun c hc => h c (List.mem_of_mem_drop hc)

theorem isNumeric_exponentText (order : Int) : ∀ c ∈ exponentText digits order, IsNumeric c := by
  unfold exponentText
  simp only [List.forall_mem_append, List.forall_mem_cons]
  refine ⟨⟨fun c hc => h c (List.mem_of_mem_take hc), ?_⟩, by decide, ?_, isNumeric_natText _⟩
  · split
    · simp
    · rw [List.forall_mem_cons]
      exact ⟨by decide, fun c hc => h c (List.mem_of_mem_drop hc)⟩
  · split <;> decide

end

theorem isNumeric_floatText (x : Number.Binary64) : ∀ c ∈ floatText x, IsNumeric c := by
  unfold floatText decimalText
  rw [List.forall_mem_append]
  constructor
  · split <;> simp [IsNumeric]
  · split
    · simp only [List.forall_mem_cons]
      exact ⟨by decide, by decide, by decide, List.forall_mem_nil _⟩
    · split
      · exact isNumeric_plainText (isNumeric_natText _) _
      · exact isNumeric_exponentText (isNumeric_natText _) _

theorem floatText_ne_nil (x : Number.Binary64) : floatText x ≠ [] := by
  unfold floatText
  intro h
  obtain ⟨-, hdigits⟩ := List.append_eq_nil_iff.mp h
  unfold decimalText at hdigits
  split at hdigits
  · cases hdigits
  split at hdigits
  · unfold plainText at hdigits
    split at hdigits <;> simp at hdigits
  · simp [exponentText] at hdigits

theorem plain_text (n : JsonNumber) : SampleId.Plain ⟨String.ofList n.text⟩ := by
  have hnumeric : ∀ c ∈ n.text, IsNumeric c := by
    cases n with
    | int n => exact isNumeric_intText n
    | float x => exact isNumeric_floatText x
  have hne : n.text ≠ [] := by
    cases n with
    | int n =>
        obtain ⟨c, cs, htext, -⟩ := Json.exists_intText_cons n
        simp [text, htext]
    | float x => exact floatText_ne_nil x
  have htrim : trim n.text = n.text := trim_of_no_blank fun c hc => (hnumeric c hc).isBlank
  constructor
  · simp [strip, htrim]
  · simpa [isBlankText, htrim] using hne

end JsonNumber

/-! ## What a value stands for -/

namespace Json

/-- A value that has another one under its `id` member, or under the `id` member of what is
there, and so on. -/
inductive UnderId (v : Json) : Json → Prop
  | here : UnderId v v
  | member {members : List (String × Json)} {w : Json} (id : members.lookup "id" = some w)
      (inner : UnderId v w) : UnderId v (.obj members)

end Json

namespace Wire

theorem resolveId_of_underId {v w : Json} (h : v.UnderId w) : resolveId w = resolveId v := by
  induction h with
  | here => rfl
  | member id inner ih => rw [resolveId, resolveIdMember_eq, id, Option.bind_some, ih]

theorem plain_strip {s : String} (h : isBlankText s = false) : SampleId.Plain ⟨strip s⟩ := by
  constructor
  · simp [strip, trim_trim]
  · simpa [isBlankText, strip, trim_trim] using h

mutual

theorem plain_of_resolveId {id : SampleId} : ∀ {v : Json}, resolveId v = some id → id.Plain
  | .str s, h => by
      rw [resolveId] at h
      split at h
      · cases h
      · next hblank =>
          cases h
          exact plain_strip (by simpa using hblank)
  | .num n, h => by
      rw [resolveId] at h
      cases h
      exact n.plain_text
  | .obj members, h => plain_of_resolveIdMember (by rwa [resolveId] at h)
  | .null, h | .bool _, h | .arr _, h => by simp [resolveId] at h

theorem plain_of_resolveIdMember {id : SampleId} :
    ∀ {members : List (String × Json)}, resolveIdMember members = some id → id.Plain
  | [], h => by simp [resolveIdMember] at h
  | (key, v) :: rest, h => by
      rw [resolveIdMember] at h
      split at h
      · exact plain_of_resolveId h
      · exact plain_of_resolveIdMember h

end

end Wire

/-! ## What a body stands for -/

def SampleId.ofText? (s : String) : Option SampleId :=
  if isBlankText s then none else some ⟨strip s⟩

def SampleId.ofInt (n : Int) : SampleId :=
  ⟨String.ofList (intText n)⟩

theorem SampleId.ofInt_injective : Function.Injective ofInt := by
  intro m n h
  have htext : intText m = intText n := by
    simpa [ofInt] using congrArg (fun id => id.text.toList) h
  have hread := Json.readNumeral_intText m Json.ends_nil
  rw [htext, Json.readNumeral_intText n Json.ends_nil] at hread
  simp only [Option.some.injEq, Prod.mk.injEq, Json.Numeral.mk.injEq, and_true] at hread
  obtain ⟨hsign, hdigits⟩ := hread
  have hvalue := congrArg (Json.digitsValue 0) hdigits
  rw [Json.digitsValue_natText, Json.digitsValue_natText] at hvalue
  have hneg : n < 0 ↔ m < 0 := by simpa using hsign
  omega

theorem SampleId.ofText?_ofInt (n : Int) : ofText? (ofInt n).text = some (ofInt n) := by
  have hplain : (ofInt n).Plain := JsonNumber.plain_text (.int n)
  unfold ofText?
  rw [if_neg (by simp [hplain.not_blank]), hplain.strip_eq]

namespace Http

/-- The bodies that are JSON for a value: those that the reader takes as that value, and among
them its compact text, blanks around it aside, if it nests no deeper than the reader follows. -/
inductive Spells (v : Json) (body : List Char) : Prop
  | read (reads : Json.parse (trim body) = some v)
  | compact (legible : v.Legible Json.maxDepth) (text : trim body = v.compact)

inductive SpellsText (s : String) (body : List Char) : Prop
  | json {v : Json} (holds : (Json.str s).UnderId v) (spells : Spells v body)
  | bare (other : Json.parse (trim s.toList) = none) (text : body = s.toList)

inductive SpellsInt (n : Int) (body : List Char) : Prop
  | number (text : trim body = intText n)
  | member (text : trim body = (Json.obj [("id", .num (.int n))]).compact)
  | digits (spells : SpellsText (SampleId.ofInt n).text body)

theorem readBody_of_spells {v : Json} {body : List Char} (h : Spells v body) :
    readBody body = v := by
  apply readBody_of_parse
  cases h with
  | read reads => exact reads
  | compact legible text => rw [text, Json.parse_compact legible]

theorem resolveId_of_spellsText {s : String} {body : List Char} (h : SpellsText s body) :
    Wire.resolveId (readBody body) = SampleId.ofText? s := by
  cases h with
  | json holds spells =>
      rw [readBody_of_spells spells, Wire.resolveId_of_underId holds]
      rfl
  | bare other text =>
      subst text
      unfold readBody
      split
      · next hnil => simp [Wire.resolveId, SampleId.ofText?, isBlankText, hnil]
      · rw [other, Option.getD_none, Wire.resolveId, SampleId.ofText?]
        simp [isBlankText, strip, trim_trim]

theorem resolveId_of_spellsInt {n : Int} {body : List Char} (low : -(2 ^ 63) ≤ n)
    (high : n < 2 ^ 64) (h : SpellsInt n body) :
    Wire.resolveId (readBody body) = some (.ofInt n) := by
  have hnumber : ∀ depth, Json.Legible depth (.num (.int n)) := fun depth => .int depth low high
  cases h with
  | number text =>
      rw [readBody_of_spells (.compact (hnumber _) text)]
      rfl
  | member text =>
      rw [readBody_of_spells (.compact (Json.legible_obj_singleton "id" (hnumber _)) text)]
      rfl
  | digits spells => rw [resolveId_of_spellsText spells, SampleId.ofText?_ofInt]

/-- Every spelling of an id in the answer to a lookup gives the same id: a text stands for
itself without the blanks at its ends, or for no id if nothing is left of it, and an integer of
64 bits for its digits, so that different integers are different ids.  Whatever the answer, an
id that it gives is more than blanks and has none at its ends. -/
theorem ids_agree_across_spellings (r : Response) (complete : r.isComplete = true)
    (success : 200 ≤ r.status ∧ r.status < 300) :
    (∀ s, SpellsText s r.text → r.read.id? = .ok (SampleId.ofText? s)) ∧
      (∀ n : Int, -(2 ^ 63) ≤ n → n < 2 ^ 64 → SpellsInt n r.text →
        r.read.id? = .ok (some (.ofInt n))) ∧
      (∀ m n, SampleId.ofInt m = SampleId.ofInt n → m = n) ∧
      ∀ id, r.read.id? = .ok (some id) → id.Plain := by
  have hread : r.read.id? = .ok (Wire.resolveId (readBody r.text)) := by
    rw [Response.read_eq_ok_iff.mpr ⟨complete, success, rfl⟩]
    rfl
  rw [hread]
  refine ⟨?_, ?_, ?_, ?_⟩
  · intro s h
    rw [resolveId_of_spellsText h]
  · intro n low high h
    rw [resolveId_of_spellsInt low high h]
  · intro m n h
    exact SampleId.ofInt_injective h
  · intro id h
    cases hid : Wire.resolveId (readBody r.text) with
    | none => rw [hid] at h; cases h
    | some id' =>
        rw [hid] at h
        cases h
        exact Wire.plain_of_resolveId hid

theorem ids_agree_across_spellings_mixed :
    let under : Response :=
      ⟨200, Utf8.encode " \x7b\"id\":\x7b\"id\":\"\u00A0x\"\x7d\x7d\n".toList, false⟩
    let greatest : Response := ⟨201, Utf8.encode " 18446744073709551615\n".toList, false⟩
    let least : Response := ⟨200, Utf8.encode "\"-9223372036854775808\"".toList, false⟩
    let bare : Response := ⟨299, Utf8.encode "\u2003\"a\" 7 ".toList, false⟩
    (SpellsText "\u00A0x" under.text ∧ under.read.id? = .ok (some ⟨"x"⟩)) ∧
      (SpellsInt (2 ^ 64 - 1) greatest.text ∧
        greatest.read.id? = .ok (some ⟨"18446744073709551615"⟩)) ∧
      (SpellsInt (-(2 ^ 63)) least.text ∧
        least.read.id? = .ok (some ⟨"-9223372036854775808"⟩)) ∧
      SpellsText "\u2003\"a\" 7 " bare.text ∧ bare.read.id? = .ok (some ⟨"\"a\" 7"⟩) := by
  intro under greatest least bare
  have hunder : SpellsText "\u00A0x" under.text := by
    rw [text_of_encoded (by decide)]
    have legible := Json.legible_obj_singleton "id" (Json.legible_obj_singleton "id"
      (.str (Json.maxDepth - 2) "\u00A0x"))
    exact .json (.member rfl (.member rfl .here)) (.compact legible (by decide +kernel))
  have hgreatest : SpellsInt (2 ^ 64 - 1) greatest.text := by
    rw [text_of_encoded (by decide)]
    exact .number (by decide +kernel)
  have hleast : SpellsInt (-(2 ^ 63)) least.text := by
    rw [text_of_encoded (by decide)]
    exact .digits (.json .here (.compact (.str _ _) (by decide +kernel)))
  have hbare : SpellsText "\u2003\"a\" 7 " bare.text := by
    rw [text_of_encoded (by decide)]
    exact .bare (by decide +kernel) rfl
  have hunderId := (ids_agree_across_spellings under rfl (by decide)).1 _ hunder
  have hgreatestId :=
    (ids_agree_across_spellings greatest rfl (by decide)).2.1 _ (by decide) (by decide) hgreatest
  have hleastId :=
    (ids_agree_across_spellings least rfl (by decide)).2.1 _ (by decide) (by decide) hleast
  have hbareId := (ids_agree_across_spellings bare rfl (by decide)).1 _ hbare
  refine ⟨⟨hunder, ?_⟩, ⟨hgreatest, ?_⟩, ⟨hleast, ?_⟩, hbare, ?_⟩
  · rw [hunderId]
    decide +kernel
  · rw [hgreatestId]
    decide +kernel
  · rw [hleastId]
    decide +kernel
  · rw [hbareId]
    decide +kernel

end Http

end CodeShelf
