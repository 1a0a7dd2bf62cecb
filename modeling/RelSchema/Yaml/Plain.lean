import RelSchema.Yaml.Timestamp

/-!
The kinds of plain scalars.
-/
namespace RelSchema.Yaml

inductive ScalarKind
  | null
  | bool
  | int
  | double
  | timestamp
  | text
  /-- The key under which other mappings are merged in. -/
  | merge
  /-- The key of a default value. -/
  | equals
  deriving DecidableEq, Repr

def nullWords : List String := ["", "~", "null", "Null", "NULL"]

def boolWords : List (String × Bool) := [
  ("yes", true), ("Yes", true), ("YES", true), ("no", false), ("No", false), ("NO", false),
  ("true", true), ("True", true), ("TRUE", true), ("false", false), ("False", false),
  ("FALSE", false), ("on", true), ("On", true), ("ON", true), ("off", false), ("Off", false),
  ("OFF", false)]

def withoutSign (s : List Char) : List Char :=
  match s with
  | '+' :: rest | '-' :: rest => rest
  | _ => s

/-- A digit or the underscore, which may stand between digits. -/
def isSpacedDigit (c : Char) : Bool :=
  c.isDigit || c == '_'

/-- A number that starts with a digit other than zero. -/
def isPositive (s : List Char) : Bool :=
  match s with
  | [] => false
  | c :: rest => c.isDigit && c != '0' && rest.all isSpacedDigit

def startsWithDigit (s : List Char) : Bool :=
  s.head?.any Char.isDigit && s.all isSpacedDigit

/-- A place of a number in base sixty: one or two digits up to 59. -/
def isSixtieth (s : List Char) : Bool :=
  match s with
  | [c] => c.isDigit
  | [c, d] => '0' ≤ c && c ≤ '5' && d.isDigit
  | _ => false

/-- Whether the text is a number of the class `isFirst` and sixtieths, with colons between them. -/
def isSexagesimal (isFirst : List Char → Bool) (s : List Char) : Bool :=
  match Text.splitAt ':' s with
  | first :: place :: places => isFirst first && (place :: places).all isSixtieth
  | _ => false

def isInt (s : List Char) : Bool :=
  let unsigned := withoutSign s
  let isDigitRun (p : Char → Bool) (s : List Char) : Bool := !s.isEmpty && s.all p
  match unsigned with
  | '0' :: 'b' :: digits => isDigitRun (fun c => c == '0' || c == '1' || c == '_') digits
  | '0' :: 'x' :: digits =>
    isDigitRun (fun c => Number.isHexDigit c || c == '_') digits
  | '0' :: digits => digits.all fun c => ('0' ≤ c && c ≤ '7') || c == '_'
  | _ => isPositive unsigned || isSexagesimal isPositive unsigned

/-- A power of ten behind a number, which has a sign; there may be none. -/
def isPower (s : List Char) : Bool :=
  match s with
  | [] => true
  | mark :: sign :: digits =>
    (mark == 'e' || mark == 'E') && (sign == '+' || sign == '-') && !digits.isEmpty &&
      digits.all Char.isDigit
  | _ => false

/-- The digits behind a decimal point, with a power of ten behind them. -/
def isFraction (s : List Char) : Bool :=
  isPower (s.dropWhile isSpacedDigit)

def isDouble (s : List Char) : Bool :=
  let unsigned := withoutSign s
  let isSigned := unsigned.length != s.length
  if [".inf", ".Inf", ".INF"].contains (String.ofList unsigned) then true
  else if [".nan", ".NaN", ".NAN"].contains (String.ofList s) then true
  else
    match Text.cutAt? '.' unsigned with
    | none => false
    | some ([], fraction) =>
      !isSigned && fraction.head?.any Char.isDigit && isFraction fraction
    | some (whole, fraction) =>
      (startsWithDigit whole && isFraction fraction) ||
        (isSexagesimal startsWithDigit whole && fraction.all isSpacedDigit)

/-- Whether the text has the form of a timestamp, be it one of the calendar or not. -/
def isTimestamp (s : List Char) : Bool :=
  (readTimestamp? 2 s).isSome

def plainKind (s : List Char) : ScalarKind :=
  let text := String.ofList s
  if nullWords.contains text then .null
  else if (boolWords.lookup text).isSome then .bool
  else if isDouble s then .double
  else if isInt s then .int
  else if isTimestamp s then .timestamp
  else if text == "<<" then .merge
  else if text == "=" then .equals
  else .text

end RelSchema.Yaml
