import RelSchema.Number.Double

/-!
Values of data files, before they are read as descriptions of schemas.
-/
namespace RelSchema

inductive Data
  | null
  | bool (value : Bool)
  | int (value : Int)
  | double (value : Double)
  | text (value : String)
  /-- A text that holds half of a surrogate pair. -/
  | brokenText
  /-- A value that no field accepts, such as a date. -/
  | other
  | list (items : List Data)
  | record (members : List (Data × Data))
  deriving Repr

namespace Data

/-- Whether two values are the same key of a record. -/
def sameKey : Data → Data → Bool
  | null, null => true
  | bool a, bool b => a == b
  | int a, int b => a == b
  | text a, text b => a == b
  | _, _ => false

/-- The members with one set: in its old place if the key is there, and last otherwise. -/
def setMember (key value : Data) : List (Data × Data) → List (Data × Data)
  | [] => [(key, value)]
  | (k, v) :: members =>
    if k.sameKey key then (k, value) :: members else (k, v) :: setMember key value members

def member? (members : List (Data × Data)) (name : String) : Option Data :=
  (members.find? fun member => member.1.sameKey (text name)).map (·.2)

/-- Whether the value holds something: zero and what is empty do not. -/
def isSubstantial : Data → Bool
  | null | bool false | int 0 | text "" | list [] | record [] => false
  | double (.finite _ 0 _) => false
  | _ => true

end Data

end RelSchema
