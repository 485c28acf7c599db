import CodeShelf.Sample

/-!
# The shapes of responses

The service has written listings as an array of records, as an object keyed by id,
and as either of them inside a `Data` envelope; it has written ids as strings, as
numbers and as objects with an `id` member.  This module reads all of them.
Whatever the shape, a listing is a list of samples in the order of the response.
-/

namespace CodeShelf.Wire

open Text

/-! ## Ids -/

mutual

/-- The id that a value stands for: a text that is not blank, without the blanks
around it, the digits of a number, or the id of an `id` member. -/
def resolveId : Json → Option SampleId
  | .str s => if isBlankText s then none else some ⟨strip s⟩
  | .num n => some ⟨String.ofList n.text⟩
  | .obj members => resolveIdMember members
  | _ => none

def resolveIdMember : List (String × Json) → Option SampleId
  | [] => none
  | (key, v) :: rest => if key = "id" then resolveId v else resolveIdMember rest

end

theorem resolveIdMember_eq (members : List (String × Json)) :
    resolveIdMember members = (members.lookup "id").bind resolveId := by
  induction members with
  | nil => rfl
  | cons m rest ih =>
      obtain ⟨key, v⟩ := m
      rw [resolveIdMember, List.lookup_cons]
      by_cases h : key = "id"
      · simp [h]
      · have h' : ("id" == key) = false := by simpa using Ne.symm h
        simp [h, h', ih]

/-! ## Listings -/

inductive RecordFault where
  | notObject (kind : String)
  | noId
  | noName (id : SampleId)
  deriving DecidableEq, Repr

inductive Fault where
  | notCollection (kind : String)
  | badRecord (position : String) (fault : RecordFault)
  | noCode
  deriving DecidableEq, Repr

def RecordFault.reason : RecordFault → String
  | notObject kind => "sample record is " ++ kind ++ ", not an object"
  | noId => "sample record has no id"
  | noName id => "sample " ++ id.text ++ " has no name"

def Fault.reason : Fault → String
  | notCollection kind => "expected array or object of samples, got " ++ kind
  | badRecord position fault => fault.reason ++ " (at " ++ position ++ ")"
  | noCode => "content response has no string `code` field"

def Fault.toError (f : Fault) : DataError :=
  .malformedResponse f.reason

def envelopeKey : String := "Data"

/-- Reads a record.  Its id is its `id` member or else the key it stands under; it
needs a name, and without a code its code is empty. -/
def readRecord (key : Option SampleId) (v : Json) : Except RecordFault Sample :=
  match v with
  | .obj members =>
      match (resolveIdMember members).or key with
      | none => .error .noId
      | some id =>
          match v.stringMember? "name" with
          | none => .error (.noName id)
          | some name => .ok ⟨id, name, (v.stringMember? "code").getD ""⟩
  | other => .error (.notObject other.kind)

def readItems (index : Nat) : List Json → Except Fault (List Sample)
  | [] => .ok []
  | v :: rest =>
      match readRecord none v with
      | .error fault => .error (.badRecord (String.ofList (natText index)) fault)
      | .ok sample => (readItems (index + 1) rest).map (sample :: ·)

def readMembers : List (String × Json) → Except Fault (List Sample)
  | [] => .ok []
  | (key, v) :: rest =>
      match readRecord (some ⟨key⟩) v with
      | .error fault => .error (.badRecord key fault)
      | .ok sample => (readMembers rest).map (sample :: ·)

/-- Reads a listing in any of its shapes.  An object whose only member is the
envelope stands for what is inside; null is the empty listing. -/
def readListing : Json → Except Fault (List Sample)
  | .null => .ok []
  | .arr items => readItems 0 items
  | .obj [(key, v)] =>
      if key = envelopeKey then readListing v else readMembers [(key, v)]
  | .obj members => readMembers members
  | other => .error (.notCollection other.kind)

/-! ## Contents and outputs -/

def readCode (v : Json) : Except Fault String :=
  match v.stringMember? "code" with
  | some code => .ok code
  | none => .error .noCode

def readOutput? (v : Json) : Option String :=
  v.stringMember? "output"

end CodeShelf.Wire
