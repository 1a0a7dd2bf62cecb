import RelSchema.Calendar
import RelSchema.Number.Integer
import RelSchema.Yaml.Cursor

/-!
Timestamps in the form of scalars: a date, and perhaps a time of day with a time zone.
-/
namespace RelSchema.Yaml

/-- The number that between `least` and `most` digits spell, and the text behind them. -/
def readCount? (least most : Nat) (s : List Char) : Option (Nat × List Char) :=
  let digits := (s.takeWhile Char.isDigit).take most
  if digits.length < least then none
  else some (Number.natOfDigits 10 digits, s.drop digits.length)

/-- A date whose month and day have at least `least` digits. -/
def readDate? (least : Nat) (s : List Char) : Option (Calendar.Moment × List Char) := do
  let (year, rest) ← readCount? 4 4 s
  let (month, rest) ← Text.dropPrefix? ['-'] rest >>= readCount? least 2
  let (day, rest) ← Text.dropPrefix? ['-'] rest >>= readCount? least 2
  return ({ year, month, day }, rest)

/-- The minutes of a distance from universal time: hours, and perhaps minutes. -/
def readDistance? (s : List Char) : Option Nat :=
  match readCount? 1 2 s with
  | some (hours, []) => some (60 * hours)
  | some (hours, rest) =>
    match Text.dropPrefix? [':'] rest >>= readCount? 2 2 with
    | some (minutes, []) => some (60 * hours + minutes)
    | _ => none
  | none => none

/-- The minutes of a time zone: none, `Z`, or a distance with a sign. -/
def readZone? (s : List Char) : Option Int :=
  match s.dropWhile isBlank with
  | [] => if s.isEmpty then some 0 else none
  | ['Z'] => some 0
  | '+' :: rest => (readDistance? rest).map fun minutes => (minutes : Int)
  | '-' :: rest => (readDistance? rest).map fun minutes => -(minutes : Int)
  | _ => none

/-- The text of a time of day behind the sign or the blanks that follow a date. -/
def dropTimeMark? (s : List Char) : Option (List Char) :=
  match s with
  | 'T' :: rest | 't' :: rest => some rest
  | c :: rest => if isBlank c then some (rest.dropWhile isBlank) else none
  | [] => none

def dropDecimals (s : List Char) : List Char :=
  match s with
  | '.' :: rest => rest.dropWhile Char.isDigit
  | _ => s

/-- A time of day behind a date. -/
def readTime? (s : List Char) : Option Calendar.Time := do
  let (hour, rest) ← dropTimeMark? s >>= readCount? 1 2
  let (minute, rest) ← Text.dropPrefix? [':'] rest >>= readCount? 2 2
  let (second, rest) ← Text.dropPrefix? [':'] rest >>= readCount? 2 2
  return { hour, minute, second, offset := ← readZone? (dropDecimals rest) }

/-- A timestamp. A date alone has months and days of at least `least` digits. -/
def readTimestamp? (least : Nat) (s : List Char) : Option Calendar.Moment :=
  match readDate? least s with
  | some (moment, []) => some moment
  | _ => do
    let (moment, rest) ← readDate? 1 s
    return { moment with time := some (← readTime? rest) }

end RelSchema.Yaml
