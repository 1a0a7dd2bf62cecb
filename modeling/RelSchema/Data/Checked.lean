import RelSchema.Data.Basic
import RelSchema.Failure
import RelSchema.Number.Integer

/-!
Checking of data against the shape of a record: all faults of a value are found together.
-/
namespace RelSchema

/-- A value, or the faults that stand against it. -/
inductive Checked (α : Type)
  | valid (value : α)
  | faulty (faults : List Fault)

namespace Checked

def map (f : α → β) : Checked α → Checked β
  | valid a => valid (f a)
  | faulty faults => faulty faults

/-- Both values, or the faults of both in order. -/
def seq (f : Checked (α → β)) (a : Unit → Checked α) : Checked β :=
  match f, a () with
  | valid f, valid a => valid (f a)
  | valid _, faulty faults => faulty faults
  | faulty faults, valid _ => faulty faults
  | faulty faults, faulty more => faulty (faults ++ more)

instance : Applicative Checked where
  pure := valid
  map := map
  seq := seq

/-- The faults as seen from the value around. -/
def within (step : Step) : Checked α → Checked α
  | valid a => valid a
  | faulty faults => faulty (faults.map (·.within step))

def problem (problem : Problem) : Checked α :=
  faulty [⟨[], problem⟩]

/-- The value, unless it breaks a rule of its own. -/
def ensure (problem? : α → Option Problem) : Checked α → Checked α
  | valid a => match problem? a with
    | none => valid a
    | some found => problem found
  | faulty faults => faulty faults

/-- All items, or the faults of all of them at their positions from `start` on. -/
def members (check : Data → Checked α) (start : Nat) : List Data → Checked (List α)
  | [] => valid []
  | item :: items =>
    List.cons <$> (check item).within (.index start) <*> members check (start + 1) items

def toExcept (record : String) : Checked α → Except Failure α
  | valid a => .ok a
  | faulty faults => .error (.invalid record faults)

end Checked

namespace Data

def asText : Data → Checked String
  | text s => .valid s
  | brokenText => .problem .brokenText
  | _ => .problem .notText

def asOptionalText : Data → Checked (Option String)
  | null => .valid none
  | data => some <$> data.asText

/-- The words that stand for truth values, in lower case. -/
def boolOfWord? : String → Option Bool
  | "0" | "off" | "f" | "false" | "n" | "no" => some false
  | "1" | "on" | "t" | "true" | "y" | "yes" => some true
  | _ => none

def boolOfInt? : Int → Option Bool
  | 0 => some false
  | 1 => some true
  | _ => none

/-- Two to the power of 63. -/
def smallBound : Int := 9223372036854775808

/-- Whether the integer has at most 64 binary digits, the sign included. -/
def isSmall (n : Int) : Bool :=
  -smallBound ≤ n && n < smallBound

/-- Whether a floating-point number of this value is taken for an integer. -/
def isSmallDouble (n : Int) : Bool :=
  -smallBound < n && n < smallBound

def asBool : Data → Checked Bool
  | bool b => .valid b
  | text s => match boolOfWord? (.ofList (s.toList.map Char.toLower)) with
    | some b => .valid b
    | none => .problem .unreadableBool
  | brokenText => .problem .unreadableBool
  | int n =>
    if isSmall n then
      match boolOfInt? n with
      | some b => .valid b
      | none => .problem .unreadableBool
    else .problem .notBool
  | double x => match x.toInt? with
    | some n =>
      if isSmallDouble n then
        match boolOfInt? n with
        | some b => .valid b
        | none => .problem .unreadableBool
      else .problem .notBool
    | none => .problem .notBool
  | _ => .problem .notBool

/-- The integer that a text spells: a sign, digits, and perhaps a point with zeros. -/
def intOfText? (s : List Char) : Option Int :=
  let s := Text.dropEndWhile Number.isNumberBlank (s.dropWhile Number.isNumberBlank)
  let (isNegative, unsigned) := Number.cutSign s
  let whole := unsigned.takeWhile (· != '.')
  let zeros := (unsigned.dropWhile (· != '.')).drop 1
  if Number.isDigitRun Char.isDigit whole && zeros.all (· == '0') then
    some (Number.withSign isNegative (Number.natOfDigits 10 (whole.filter (· != '_'))))
  else none

def asInt : Data → Checked Int
  | bool b => .valid (if b then 1 else 0)
  | int n => .valid n
  | text s =>
    if s.length > 4300 then .problem .oversizedInt
    else match intOfText? s.toList with
      | some n => .valid n
      | none => .problem .unreadableInt
  | brokenText => .problem .unreadableInt
  | double x =>
    if !x.isFinite then .problem .infiniteInt
    else match x.toInt? with
      | none => .problem .fractionalInt
      | some n => if isSmallDouble n then .valid n else .problem .oversizedInt
  | _ => .problem .notInt

def asTuple (check : Data → Checked α) : Data → Checked (List α)
  | list items => Checked.members check 0 items
  | _ => .problem .notTuple

def asList (check : Data → Checked α) : Data → Checked (List α)
  | list items => Checked.members check 0 items
  | _ => .problem .notList

/-- A field that has to be present. -/
def required (members : List (Data × Data)) (name : String) (check : Data → Checked α) :
    Checked α :=
  match member? members name with
  | some data => (check data).within (.field name)
  | none => (Checked.problem .missing).within (.field name)

def withDefault (members : List (Data × Data)) (name : String) (check : Data → Checked α)
    (absent : α) : Checked α :=
  match member? members name with
  | some data => (check data).within (.field name)
  | none => .valid absent

def asRecord (record : String) (check : List (Data × Data) → Checked α) : Data → Checked α
  | .record members => check members
  | _ => .problem (.notRecord record)

end Data

end RelSchema
