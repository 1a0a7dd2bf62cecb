import RelSchema.Calendar
import RelSchema.Number.Integer

/-!
The ways in which a text fails to be a YAML document with a value.
-/
namespace RelSchema.Yaml

inductive Fault
  /-- The text is no document, or a node is not of the kind that its tag asks for. -/
  | malformed
  /-- A code behind a backslash is beyond those of characters. -/
  | code (number : Nat)
  /-- A scalar is tagged as a timestamp and has not the form of one. -/
  | noTimestamp
  /-- A collection whose content stands under its default key is tagged as a timestamp. -/
  | collectionTimestamp
  | date (problem : Calendar.Problem)
  /-- A scalar is tagged as a truth value and is no word for one, in lower case. -/
  | noTruth (word : String)
  /-- A number has no characters. -/
  | emptyNumber
  | int (fault : Number.IntFault)
  /-- A scalar is tagged as a floating-point number and spells none. -/
  | double (text : String)
  /-- A place of a number in base sixty counts for more than all floating-point numbers. -/
  | oversizedPlace
  deriving DecidableEq, Repr

def Fault.message : Fault → String
  | malformed => "unreadable YAML"
  | code number =>
    if number < 0x80000000 then "chr() arg not in range(0x110000)"
    else "Python int too large to convert to C int"
  | noTimestamp => "not a timestamp"
  | collectionTimestamp => "not the text of a timestamp"
  | date problem => problem.message
  | noTruth word => Text.quoted word
  | emptyNumber => "string index out of range"
  | int fault => fault.message
  | double text => "could not convert string to float: " ++ Text.quoted text
  | oversizedPlace => "int too large to convert to float"

end RelSchema.Yaml
