import RelSchema.Text.Trim

/-!
Faults found while a description of a schema is checked, each with the place where it was found.
-/
namespace RelSchema

inductive Step
  | field (name : String)
  | index (position : Nat)
  deriving DecidableEq, Repr

/-- What is wrong with a value. -/
inductive Problem
  | missing
  | notText
  | brokenText
  | notBool
  | unreadableBool
  | notInt
  | unreadableInt
  | fractionalInt
  | infiniteInt
  | oversizedInt
  | notTuple
  | notList
  | notMapping
  | notRecord (record : String)
  | notRelationKind
  | violated (rule : String)
  deriving DecidableEq, Repr

namespace Problem

def kind : Problem → String
  | missing => "missing"
  | notText => "string_type"
  | brokenText => "string_unicode"
  | notBool => "bool_type"
  | unreadableBool => "bool_parsing"
  | notInt => "int_type"
  | unreadableInt => "int_parsing"
  | fractionalInt => "int_from_float"
  | infiniteInt => "finite_number"
  | oversizedInt => "int_parsing_size"
  | notTuple => "tuple_type"
  | notList => "list_type"
  | notMapping => "dict_type"
  | notRecord _ => "model_type"
  | notRelationKind => "enum"
  | violated _ => "value_error"

def message : Problem → String
  | missing => "Field required"
  | notText => "Input should be a valid string"
  | brokenText => "Input should be a valid string, unable to parse raw data as a unicode string"
  | notBool => "Input should be a valid boolean"
  | unreadableBool => "Input should be a valid boolean, unable to interpret input"
  | notInt => "Input should be a valid integer"
  | unreadableInt => "Input should be a valid integer, unable to parse string as an integer"
  | fractionalInt => "Input should be a valid integer, got a number with a fractional part"
  | infiniteInt => "Input should be a finite number"
  | oversizedInt => "Unable to parse input string as an integer, exceeded maximum size"
  | notTuple => "Input should be a valid tuple"
  | notList => "Input should be a valid list"
  | notMapping => "Input should be a valid dictionary"
  | notRecord record => "Input should be a valid dictionary or instance of " ++ record
  | notRelationKind => "Input should be 'has_one', 'belongs_to', 'has_many' or 'many_to_many'"
  | violated rule => "Value error, " ++ rule

end Problem

/-- A problem together with the steps that lead to the faulty value. -/
structure Fault where
  path : List Step
  problem : Problem
  deriving DecidableEq, Repr

namespace Fault

/-- The fault as seen from the value around the faulty one. -/
def within (step : Step) (fault : Fault) : Fault :=
  { fault with path := step :: fault.path }

end Fault

end RelSchema
