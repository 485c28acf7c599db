import CodeShelf.Number.Binary64

/-!
# JSON values

The values that travel between the client and the service.  An object keeps its
members in the order in which they were first written; setting a member that is
already there replaces its value in place.
-/

namespace CodeShelf

open Number

inductive JsonNumber where
  | int (value : Int)
  | float (value : Binary64)
  deriving DecidableEq, Repr

inductive Json where
  | null
  | bool (value : Bool)
  | num (value : JsonNumber)
  | str (value : String)
  | arr (items : List Json)
  | obj (members : List (String × Json))
  deriving Repr, Inhabited

namespace Json

def kind : Json → String
  | null => "null"
  | bool _ => "a boolean"
  | num _ => "a number"
  | str _ => "a string"
  | arr _ => "an array"
  | obj _ => "an object"

def member? (key : String) : Json → Option Json
  | obj members => members.lookup key
  | _ => none

def string? : Json → Option String
  | str s => some s
  | _ => none

def stringMember? (key : String) (v : Json) : Option String :=
  (v.member? key).bind string?

/-- Sets a member: in place if the key is there, at the end otherwise. -/
def put (key : String) (v : Json) : List (String × Json) → List (String × Json)
  | [] => [(key, v)]
  | (k, w) :: rest => if k = key then (k, v) :: rest else (k, w) :: put key v rest

def ofPairs (pairs : List (String × Json)) : Json :=
  obj (pairs.foldl (fun members p => put p.1 p.2 members) [])

end Json

end CodeShelf
