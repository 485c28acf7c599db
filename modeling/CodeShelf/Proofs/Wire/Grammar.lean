import CodeShelf.Proofs.Wire.Listing
import Mathlib.Data.List.Forall2

/-!
# The grammar of listings

Which values are listings, what samples they list, and what is told about the others.  A
value is taken out of its envelopes first.  What is left is a listing if it is null, an
array of records that have an id and a name, or an object whose members are records that
have a name; of anything else the first record that is at fault is named.
-/

namespace CodeShelf.Wire

/-! ## Reading one after another -/

theorem mapM_eq_ok_iff {α β ε : Type} {read : α → Except ε β} {xs : List α} {ys : List β} :
    xs.mapM read = .ok ys ↔ List.Forall₂ (fun x y => read x = .ok y) xs ys := by
  induction xs generalizing ys with
  | nil => cases ys <;> simp [pure, Except.pure]
  | cons x xs ih =>
      rw [List.mapM_cons, List.forall₂_cons_left_iff]
      simp only [← ih]
      cases read x with
      | error e => simp [bind, Except.bind]
      | ok y => cases xs.mapM read <;> simp [bind, Except.bind, pure, Except.pure, eq_comm]

theorem exists_first_of_mapM_eq_error {α β ε : Type} {read : α → Except ε β} {xs : List α} {e : ε}
    (h : xs.mapM read = .error e) :
    ∃ before x after, xs = before ++ x :: after ∧ (∀ w ∈ before, ∃ y, read w = .ok y) ∧
      read x = .error e := by
  induction xs with
  | nil => cases h
  | cons x xs ih =>
      rw [List.mapM_cons] at h
      cases hx : read x with
      | error e' =>
          rw [hx] at h
          cases h
          exact ⟨[], x, xs, rfl, by simp, hx⟩
      | ok y =>
          cases hxs : xs.mapM read with
          | ok ys =>
              rw [hx, hxs] at h
              cases h
          | error e' =>
              rw [hx, hxs] at h
              cases h
              obtain ⟨before, x', after, rfl, fine, bad⟩ := ih hxs
              refine ⟨x :: before, x', after, rfl, ?_, bad⟩
              intro w hw
              rcases List.mem_cons.mp hw with rfl | hw
              · exact ⟨y, hx⟩
              · exact fine w hw

/-! ## Records -/

def HasId (key : Option String) (members : List (String × Json)) (id : SampleId) : Prop :=
  (∃ v, members.lookup "id" = some v ∧ resolveId v = some id) ∨
    ((∀ v, members.lookup "id" = some v → resolveId v = none) ∧ key = some id.text)

def HasCode (members : List (String × Json)) (code : String) : Prop :=
  members.lookup "code" = some (.str code) ∨
    ((∀ text, members.lookup "code" ≠ some (.str text)) ∧ code = "")

inductive Record (key : Option String) : Json → Sample → Prop
  | intro {members : List (String × Json)} {id : SampleId} {name code : String}
      (id_eq : HasId key members id) (name_eq : members.lookup "name" = some (.str name))
      (code_eq : HasCode members code) : Record key (.obj members) ⟨id, name, code⟩

inductive Offends (key : Option String) : Json → RecordFault → Prop
  | notObject {v : Json} (h : ∀ members, v ≠ .obj members) : Offends key v (.notObject v.kind)
  | noId {members : List (String × Json)} (h : ∀ id, ¬ HasId key members id) :
      Offends key (.obj members) .noId
  | noName {members : List (String × Json)} {id : SampleId} (id_eq : HasId key members id)
      (h : ∀ name, members.lookup "name" ≠ some (.str name)) :
      Offends key (.obj members) (.noName id)

theorem hasId_iff {key : Option String} {members : List (String × Json)} {id : SampleId} :
    HasId key members id ↔ (resolveIdMember members).or (key.map .mk) = some id := by
  rw [HasId, resolveIdMember_eq]
  cases hmember : members.lookup "id" with
  | none =>
      cases key <;> cases id <;> simp
  | some v =>
      cases hv : resolveId v with
      | none => cases key <;> cases id <;> simp [hv]
      | some id' => simp [hv]

theorem stringMember?_eq_some_iff {members : List (String × Json)} {key text : String} :
    (Json.obj members).stringMember? key = some text ↔ members.lookup key = some (.str text) := by
  rw [Json.stringMember?, Json.member?]
  cases members.lookup key with
  | none => simp
  | some v => cases v <;> simp [Json.string?]

theorem hasCode_iff {members : List (String × Json)} {code : String} :
    HasCode members code ↔ ((Json.obj members).stringMember? "code").getD "" = code := by
  rw [HasCode]
  simp only [ne_eq, ← stringMember?_eq_some_iff]
  cases (Json.obj members).stringMember? "code" <;> simp [eq_comm]

theorem readRecord_cases (key : Option String) (v : Json) :
    (∃ s, readRecord (key.map .mk) v = .ok s ∧ Record key v s) ∨
      ∃ fault, readRecord (key.map .mk) v = .error fault ∧ Offends key v fault := by
  cases v with
  | obj members =>
      rw [readRecord]
      cases hid : (resolveIdMember members).or (key.map SampleId.mk) with
      | none => exact .inr ⟨.noId, rfl, .noId fun id => by simp [hasId_iff, hid]⟩
      | some id =>
          have id_eq : HasId key members id := hasId_iff.mpr hid
          simp only
          cases hname : (Json.obj members).stringMember? "name" with
          | none =>
              refine .inr ⟨.noName id, rfl, .noName id_eq fun name hlookup => ?_⟩
              rw [stringMember?_eq_some_iff.mpr hlookup] at hname
              cases hname
          | some name =>
              exact .inl ⟨_, rfl, .intro id_eq (stringMember?_eq_some_iff.mp hname)
                (hasCode_iff.mpr rfl)⟩
  | _ => exact .inr ⟨_, rfl, .notObject (by simp)⟩

theorem Offends.not_record {key : Option String} {v : Json} {fault : RecordFault}
    (h : Offends key v fault) (s : Sample) : ¬ Record key v s := by
  rintro ⟨id_eq, name_eq, -⟩
  cases h with
  | notObject h => exact h _ rfl
  | noId h => exact h _ id_eq
  | noName _ h => exact h _ name_eq

theorem readRecord_eq_ok_iff {key : Option String} {v : Json} {s : Sample} :
    readRecord (key.map .mk) v = .ok s ↔ Record key v s := by
  constructor
  · intro h
    rcases readRecord_cases key v with ⟨t, ht, hrecord⟩ | ⟨fault, hfault, -⟩
    · cases ht.symm.trans h
      exact hrecord
    · cases hfault.symm.trans h
  · rintro ⟨id_eq, name_eq, code_eq⟩
    rw [readRecord, hasId_iff.mp id_eq]
    simp only [stringMember?_eq_some_iff.mpr name_eq, hasCode_iff.mp code_eq]

theorem offends_of_readRecord {key : Option String} {v : Json} {fault : RecordFault}
    (h : readRecord (key.map .mk) v = .error fault) : Offends key v fault := by
  rcases readRecord_cases key v with ⟨t, ht, -⟩ | ⟨fault', hfault, offends⟩
  · cases ht.symm.trans h
  · cases hfault.symm.trans h
    exact offends

/-! ## Envelopes -/

/-- A value that is no envelope: it is not an object with the one member `Data`. -/
def Bare (v : Json) : Prop :=
  ∀ inner, v ≠ .obj [(envelopeKey, inner)]

theorem exists_bare (v : Json) : ∃ layers core, v = enveloped layers core ∧ Bare core := by
  fun_induction readListing v with
  | case1 => exact ⟨0, .null, rfl, by simp [Bare]⟩
  | case2 items => exact ⟨0, .arr items, rfl, by simp [Bare]⟩
  | case3 v ih =>
      obtain ⟨layers, core, rfl, bare⟩ := ih
      exact ⟨layers + 1, core, rfl, bare⟩
  | case4 key v h => exact ⟨0, _, rfl, by simp [Bare, h]⟩
  | case5 members h => exact ⟨0, _, rfl, fun inner heq => by simp_all⟩
  | case6 other => exact ⟨0, other, rfl, by simp_all [Bare]⟩

/-! ## Records in a row -/

def readAt (key : Option String) (position : String) (v : Json) : Except Fault Sample :=
  (readRecord (key.map .mk) v).mapError (.badRecord position)

theorem readAt_eq_ok_iff {key : Option String} {position : String} {v : Json} {s : Sample} :
    readAt key position v = .ok s ↔ Record key v s := by
  rw [← readRecord_eq_ok_iff, readAt]
  cases readRecord (key.map .mk) v <;> simp [Except.mapError]

theorem exists_offends_of_readAt {key : Option String} {position : String} {v : Json}
    {fault : Fault} (h : readAt key position v = .error fault) :
    ∃ offence, Offends key v offence ∧ fault = .badRecord position offence := by
  rw [readAt] at h
  cases hread : readRecord (key.map .mk) v with
  | ok s =>
      rw [hread] at h
      cases h
  | error offence =>
      rw [hread] at h
      cases h
      exact ⟨offence, offends_of_readRecord hread, rfl⟩

def indexText (index : Nat) : String :=
  String.ofList (natText index)

theorem readItems_eq_mapM (index : Nat) (items : List Json) :
    readItems index items =
      (items.zipIdx index).mapM fun item => readAt none (indexText item.2) item.1 := by
  induction items generalizing index with
  | nil => rfl
  | cons v rest ih =>
      rw [readItems, List.zipIdx_cons, List.mapM_cons, ← ih (index + 1), readAt, Option.map_none]
      cases readRecord none v with
      | error offence => rfl
      | ok s => cases readItems (index + 1) rest <;> rfl

theorem readMembers_eq_mapM (members : List (String × Json)) :
    readMembers members = members.mapM fun m => readAt (some m.1) m.1 m.2 := by
  induction members with
  | nil => rfl
  | cons m rest ih =>
      obtain ⟨key, v⟩ := m
      rw [readMembers, List.mapM_cons, ← ih, readAt, Option.map_some]
      cases readRecord (some ⟨key⟩) v with
      | error offence => rfl
      | ok s => cases readMembers rest <;> rfl

theorem readItems_eq_ok_iff {index : Nat} {items : List Json} {samples : List Sample} :
    readItems index items = .ok samples ↔ List.Forall₂ (Record none) items samples := by
  rw [readItems_eq_mapM, mapM_eq_ok_iff]
  simp only [readAt_eq_ok_iff]
  rw [← List.forall₂_map_left_iff, List.zipIdx_map_fst]

theorem readMembers_eq_ok_iff {members : List (String × Json)} {samples : List Sample} :
    readMembers members = .ok samples ↔
      List.Forall₂ (fun m s => Record (some m.1) m.2 s) members samples := by
  rw [readMembers_eq_mapM, mapM_eq_ok_iff]
  simp only [readAt_eq_ok_iff]

theorem exists_first_of_readItems {index : Nat} {items : List Json} {fault : Fault}
    (h : readItems index items = .error fault) :
    ∃ before v after offence, items = before ++ v :: after ∧
      (∀ w ∈ before, ∃ s, Record none w s) ∧ Offends none v offence ∧
      fault = .badRecord (indexText (index + before.length)) offence := by
  rw [readItems_eq_mapM] at h
  obtain ⟨before, item, after, hitems, fine, bad⟩ := exists_first_of_mapM_eq_error h
  obtain ⟨before, rest, rfl, rfl, hrest⟩ := List.zipIdx_eq_append_iff.mp hitems
  obtain ⟨v, after, rfl, rfl, rfl⟩ := List.zipIdx_eq_cons_iff.mp hrest.symm
  obtain ⟨offence, offends, rfl⟩ := exists_offends_of_readAt bad
  refine ⟨before, v, after, offence, rfl, fun w hw => ?_, offends, rfl⟩
  rw [← List.zipIdx_map_fst index before] at hw
  obtain ⟨item, hitem, rfl⟩ := List.mem_map.mp hw
  obtain ⟨s, hs⟩ := fine item hitem
  exact ⟨s, readAt_eq_ok_iff.mp hs⟩

theorem exists_first_of_readMembers {members : List (String × Json)} {fault : Fault}
    (h : readMembers members = .error fault) :
    ∃ before key v after offence, members = before ++ (key, v) :: after ∧
      (∀ m ∈ before, ∃ s, Record (some m.1) m.2 s) ∧ Offends (some key) v offence ∧
      fault = .badRecord key offence := by
  rw [readMembers_eq_mapM] at h
  obtain ⟨before, ⟨key, v⟩, after, rfl, fine, bad⟩ := exists_first_of_mapM_eq_error h
  obtain ⟨offence, offends, rfl⟩ := exists_offends_of_readAt bad
  refine ⟨before, key, v, after, offence, rfl, fun m hm => ?_, offends, rfl⟩
  obtain ⟨s, hs⟩ := fine m hm
  exact ⟨s, readAt_eq_ok_iff.mp hs⟩

/-! ## Listings -/

def IsItem (v : Json) : Prop :=
  ∃ members name w id, v = .obj members ∧ members.lookup "name" = some (.str name) ∧
    members.lookup "id" = some w ∧ resolveId w = some id

def IsEntry (v : Json) : Prop :=
  ∃ members name, v = .obj members ∧ members.lookup "name" = some (.str name)

inductive Listable : Json → Prop
  | null : Listable .null
  | array {items : List Json} (records : ∀ v ∈ items, IsItem v) : Listable (.arr items)
  | keyed {members : List (String × Json)} (records : ∀ m ∈ members, IsEntry m.2) :
      Listable (.obj members)

inductive Lists : Json → List Sample → Prop
  | null : Lists .null []
  | array {items : List Json} {samples : List Sample}
      (records : List.Forall₂ (Record none) items samples) : Lists (.arr items) samples
  | keyed {members : List (String × Json)} {samples : List Sample}
      (records : List.Forall₂ (fun m s => Record (some m.1) m.2 s) members samples) :
      Lists (.obj members) samples

/-- What is told about a value that is no listing: the first record at fault with its
position, where it has records at all. -/
inductive Blames : Json → String → Prop
  | item {before after : List Json} {v : Json} {offence : RecordFault}
      (fine : ∀ w ∈ before, IsItem w) (bad : ¬ IsItem v) (offends : Offends none v offence) :
      Blames (.arr (before ++ v :: after))
        (offence.reason ++ " (at " ++ indexText before.length ++ ")")
  | entry {before after : List (String × Json)} {key : String} {v : Json} {offence : RecordFault}
      (fine : ∀ m ∈ before, IsEntry m.2) (bad : ¬ IsEntry v)
      (offends : Offends (some key) v offence) :
      Blames (.obj (before ++ (key, v) :: after)) (offence.reason ++ " (at " ++ key ++ ")")
  | scalar {v : Json} (null : v ≠ .null) (array : ∀ items, v ≠ .arr items)
      (object : ∀ members, v ≠ .obj members) :
      Blames v ("expected array or object of samples, got " ++ v.kind)

theorem exists_hasCode (members : List (String × Json)) : ∃ code, HasCode members code :=
  ⟨_, hasCode_iff.mpr rfl⟩

theorem exists_record_none_iff {v : Json} : (∃ s, Record none v s) ↔ IsItem v := by
  constructor
  · rintro ⟨_, ⟨hid, hname, -⟩⟩
    rcases hid with ⟨w, hw, hresolve⟩ | ⟨-, hkey⟩
    · exact ⟨_, _, w, _, rfl, hname, hw, hresolve⟩
    · cases hkey
  · rintro ⟨members, name, w, id, rfl, hname, hw, hresolve⟩
    obtain ⟨code, hcode⟩ := exists_hasCode members
    exact ⟨_, .intro (.inl ⟨w, hw, hresolve⟩) hname hcode⟩

theorem exists_record_some_iff {key : String} {v : Json} :
    (∃ s, Record (some key) v s) ↔ IsEntry v := by
  constructor
  · rintro ⟨_, ⟨-, hname, -⟩⟩
    exact ⟨_, _, rfl, hname⟩
  · rintro ⟨members, name, rfl, hname⟩
    obtain ⟨code, hcode⟩ := exists_hasCode members
    cases hid : (resolveIdMember members).or ((some key).map SampleId.mk) with
    | none => simp at hid
    | some id => exact ⟨_, .intro (hasId_iff.mpr hid) hname hcode⟩

theorem Offends.not_exists {key : Option String} {v : Json} {offence : RecordFault}
    (h : Offends key v offence) : ¬ ∃ s, Record key v s :=
  fun ⟨s, hs⟩ => h.not_record s hs

theorem exists_of_forall₂ {α β : Type} {r : α → β → Prop} {xs : List α} {ys : List β}
    (h : List.Forall₂ r xs ys) : ∀ x ∈ xs, ∃ y, r x y := by
  induction h with
  | nil => simp
  | cons hxy _ ih =>
      intro x hx
      rcases List.mem_cons.mp hx with rfl | hx
      · exact ⟨_, hxy⟩
      · exact ih x hx

theorem Lists.listable {v : Json} {samples : List Sample} (h : Lists v samples) : Listable v := by
  cases h with
  | null => exact .null
  | array records =>
      exact .array fun v hv => exists_record_none_iff.mp (exists_of_forall₂ records v hv)
  | keyed records =>
      exact .keyed fun m hm => exists_record_some_iff.mp (exists_of_forall₂ records m hm)

theorem Blames.not_listable {v : Json} {reason : String} (h : Blames v reason) :
    ¬ Listable v := by
  intro hlistable
  cases h with
  | item _ bad _ =>
      cases hlistable with
      | array records => exact bad (records _ (by simp))
  | @entry before after key w _ _ bad _ =>
      cases hlistable with
      | keyed records => exact bad (records (key, w) (by simp))
  | scalar null array object =>
      cases hlistable with
      | null => exact null rfl
      | array => exact array _ rfl
      | keyed => exact object _ rfl

theorem readListing_cases {v : Json} (bare : Bare v) :
    (∃ samples, readListing v = .ok samples ∧ Lists v samples) ∨
      ∃ fault reason, readListing v = .error fault ∧ fault.reason = reason ∧ Blames v reason := by
  cases v with
  | null => exact .inl ⟨[], rfl, .null⟩
  | arr items =>
      rw [readListing]
      cases hread : readItems 0 items with
      | ok samples => exact .inl ⟨samples, rfl, .array (readItems_eq_ok_iff.mp hread)⟩
      | error fault =>
          obtain ⟨before, v, after, offence, rfl, fine, offends, rfl⟩ :=
            exists_first_of_readItems hread
          refine .inr ⟨_, _, rfl, rfl, ?_⟩
          rw [Nat.zero_add]
          exact .item (fun w hw => exists_record_none_iff.mp (fine w hw))
            (fun h => offends.not_exists (exists_record_none_iff.mpr h)) offends
  | obj members =>
      rw [readListing_obj fun inner h => bare inner (by rw [h])]
      cases hread : readMembers members with
      | ok samples => exact .inl ⟨samples, rfl, .keyed (readMembers_eq_ok_iff.mp hread)⟩
      | error fault =>
          obtain ⟨before, key, v, after, offence, rfl, fine, offends, rfl⟩ :=
            exists_first_of_readMembers hread
          exact .inr ⟨_, _, rfl, rfl,
            .entry (fun m hm => exists_record_some_iff.mp (fine m hm))
              (fun h => offends.not_exists (exists_record_some_iff.mpr h)) offends⟩
  | _ => exact .inr ⟨_, _, rfl, rfl, .scalar (by simp) (by simp) (by simp)⟩

/-- A value reads as a listing exactly if what its envelopes hold is one by the grammar.
The result has one sample for each record in order; everything else is a malformed
response, and the first record at fault is named by its position. -/
theorem listings_read_by_grammar (v : Json) :
    ∃ layers core, v = enveloped layers core ∧ Bare core ∧
      ((∃ samples, readListing v = .ok samples) ↔ Listable core) ∧
      (∀ samples, readListing v = .ok samples → Lists core samples) ∧
      (∀ fault, readListing v = .error fault →
        ∃ reason, fault.toError = .malformedResponse reason ∧ Blames core reason) := by
  obtain ⟨layers, core, rfl, bare⟩ := exists_bare v
  refine ⟨layers, core, rfl, bare, ?_⟩
  rw [readListing_enveloped]
  rcases readListing_cases bare with ⟨samples, hread, lists⟩ | ⟨fault, reason, hread, rfl, blames⟩
  · rw [hread]
    refine ⟨⟨fun _ => lists.listable, fun _ => ⟨samples, rfl⟩⟩, ?_, nofun⟩
    rintro _ ⟨⟩
    exact lists
  · rw [hread]
    refine ⟨⟨nofun, fun h => absurd h blames.not_listable⟩, nofun, ?_⟩
    rintro _ ⟨⟩
    exact ⟨_, rfl, blames⟩

end CodeShelf.Wire
