import RelSchema.Calendar
import RelSchema.Data.Basic
import RelSchema.Toml.Text

/-!
The numbers, dates and times of a TOML document.
-/
namespace RelSchema.Toml

/-- A number of as many digits as `count` that is not outside the bounds. -/
def readBounded (count least greatest : Nat) (s : List Char) : Option (Nat × List Char) :=
  let digits := s.take count
  let value := Number.natOfDigits 10 digits
  if digits.length == count && digits.all Char.isDigit && least ≤ value && value ≤ greatest then
    some (value, s.drop count)
  else none

/-- The text behind hours, minutes and seconds with decimals. -/
def skipTime? (s : List Char) : Option (List Char) := do
  let (_, rest) ← readBounded 2 0 23 s
  let (_, rest) ← Text.dropPrefix? [':'] rest >>= readBounded 2 0 59
  let (_, rest) ← Text.dropPrefix? [':'] rest >>= readBounded 2 0 59
  match rest with
  | '.' :: c :: decimals =>
    return if c.isDigit then decimals.dropWhile Char.isDigit else rest
  | _ => return rest

/-- The text behind an offset from universal time, if there is one. -/
def skipOffset (s : List Char) : List Char :=
  let hours? : Option (List Char) := do
    let (_, rest) ← readBounded 2 0 23 (s.drop 1)
    let (_, rest) ← Text.dropPrefix? [':'] rest >>= readBounded 2 0 59
    return rest
  match s with
  | 'Z' :: rest | 'z' :: rest => rest
  | '+' :: _ | '-' :: _ => hours?.getD s
  | _ => s

/-- The text behind a time that follows a date, if one does. -/
def skipTimeOfDay (s : List Char) : List Char :=
  match s with
  | mark :: rest =>
    if mark == 'T' || mark == 't' || mark == ' ' then
      ((skipTime? rest).map skipOffset).getD s
    else s
  | [] => s

/-- The year, the month and the day of a date, and the text behind it. -/
def readDate (s : List Char) : Option ((Nat × Nat × Nat) × List Char) := do
  let (year, rest) ← readBounded 4 0 9999 s
  let (month, rest) ← Text.dropPrefix? ['-'] rest >>= readBounded 2 1 12
  let (day, rest) ← Text.dropPrefix? ['-'] rest >>= readBounded 2 1 31
  return ((year, month, day), rest)

/-- Digits behind a digit, each perhaps with an underscore in front of it. -/
def digitsAfter (isDigit : Char → Bool) : List Char → List Char × List Char
  | '_' :: c :: rest =>
    if isDigit c then
      let (digits, rest) := digitsAfter isDigit rest
      (c :: digits, rest)
    else ([], '_' :: c :: rest)
  | c :: rest =>
    if isDigit c then
      let (digits, rest) := digitsAfter isDigit rest
      (c :: digits, rest)
    else ([], c :: rest)
  | [] => ([], [])

/-- Digits with single underscores between them. -/
def readDigits (isDigit : Char → Bool) (s : List Char) : Option (List Char × List Char) :=
  match s with
  | c :: rest =>
    if isDigit c then
      let (digits, rest) := digitsAfter isDigit rest
      some (c :: digits, rest)
    else none
  | [] => none

/-- The integer whose base stands in front of it. -/
def readBased (s : List Char) : Option (Data × List Char) :=
  let inBase (base : Nat) (isDigit : Char → Bool) (rest : List Char) : Option (Data × List Char) :=
    (readDigits isDigit rest).map fun (digits, rest) =>
      (.int (Number.natOfDigits base digits), rest)
  match s with
  | '0' :: 'x' :: rest => inBase 16 Number.isHexDigit rest
  | '0' :: 'b' :: rest => inBase 2 (fun c => c == '0' || c == '1') rest
  | '0' :: 'o' :: rest => inBase 8 (fun c => '0' ≤ c && c ≤ '7') rest
  | _ => none

/-- The digits in front of a decimal point: a zero stands alone. -/
def readWhole (s : List Char) : Option (List Char × List Char) :=
  match s with
  | '0' :: rest => some (['0'], rest)
  | _ => readDigits Char.isDigit s

def readFraction (s : List Char) : Option (List Char × List Char) :=
  match s with
  | '.' :: rest => readDigits Char.isDigit rest
  | _ => none

def readPower (s : List Char) : Option (Int × List Char) :=
  match s with
  | mark :: rest =>
    if mark == 'e' || mark == 'E' then
      let (isNegative, rest) := Number.cutSign rest
      (readDigits Char.isDigit rest).map fun (digits, rest) =>
        (Number.withSign isNegative (Number.natOfDigits 10 digits), rest)
    else none
  | [] => none

/-- An integer, or a number with decimals or a power of ten. -/
def readDecimal (s : List Char) : Option (Data × List Char) := do
  let (isNegative, unsigned) := Number.cutSign s
  let (whole, rest) ← readWhole unsigned
  let fraction? := readFraction rest
  let rest := (fraction?.map (·.2)).getD rest
  let power? := readPower rest
  let rest := (power?.map (·.2)).getD rest
  if fraction?.isNone && power?.isNone then
    return (.int (Number.withSign isNegative (Number.natOfDigits 10 whole)), rest)
  else
    let places := (fraction?.map (·.1)).getD []
    let exponent := (power?.map (·.1)).getD 0 - places.length
    let digits := Number.natOfDigits 10 (whole ++ places)
    return (.double (.ofDecimal isNegative digits exponent), rest)

/-- One of the values beyond the numbers. -/
def readSpecial (s : List Char) : Option (Data × List Char) :=
  let (isNegative, word) := Number.cutSign s
  match word with
  | 'i' :: 'n' :: 'f' :: rest => some (.double (.infinite isNegative), rest)
  | 'n' :: 'a' :: 'n' :: rest => some (.double .nan, rest)
  | _ => none

/-- A date, a time or a number. A date has to be one of the calendar. -/
def readQuantity (s : List Char) : Option (Data × List Char) :=
  match readDate s with
  | some ((year, month, day), rest) =>
    if 0 < year && day ≤ Calendar.daysOfMonth year month then some (.other, skipTimeOfDay rest)
    else none
  | none =>
    match skipTime? s with
    | some rest => some (.other, rest)
    | none => readBased s <|> readDecimal s <|> readSpecial s

end RelSchema.Toml
