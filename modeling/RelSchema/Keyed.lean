/-!
Values under keys, in the order in which the keys were first set.
-/
namespace RelSchema

abbrev Keyed (α : Type) := List (String × α)

namespace Keyed

/-- Sets the value of a key, which keeps its place if it is there. -/
def set (key : String) (value : α) : Keyed α → Keyed α
  | [] => [(key, value)]
  | (k, v) :: rest => if k == key then (k, value) :: rest else (k, v) :: set key value rest

def get? (entries : Keyed α) (key : String) : Option α :=
  entries.lookup key

def has (entries : Keyed α) (key : String) : Bool :=
  (entries.get? key).isSome

def keys (entries : Keyed α) : List String :=
  entries.map (·.1)

/-- The entries set one after the other, so that of two values of a key the later one counts. -/
def ofList (entries : List (String × α)) : Keyed α :=
  entries.foldl (fun keyed (key, value) => keyed.set key value) []

end Keyed

end RelSchema
