import RelSchema.Text.Quoted
import RelSchema.Text.Trim

/-!
Integers as texts.
-/
namespace RelSchema.Number

/-- The value of a hexadecimal digit of either case. -/
def hexValue? (c : Char) : Option Nat :=
  if c.isDigit then some (c.toNat - '0'.toNat)
  else if 'a' ≤ c && c ≤ 'f' then some (c.toNat - 'a'.toNat + 10)
  else if 'A' ≤ c && c ≤ 'F' then some (c.toNat - 'A'.toNat + 10)
  else none

def isHexDigit (c : Char) : Bool :=
  (hexValue? c).isSome

/-- The number that digits spell in a base; other characters count as zeros. -/
def natOfDigits (base : Nat) (digits : List Char) : Nat :=
  digits.foldl (fun n c => n * base + (hexValue? c).getD 0) 0

def isNumberBlank (c : Char) : Bool :=
  Text.isBlank c && !(28 ≤ c.toNat && c.toNat ≤ 31)

/-- Digits with single underscores between them. -/
def isDigitRun (isDigit : Char → Bool) : List Char → Bool
  | [] => false
  | [c] => isDigit c
  | c :: '_' :: rest => isDigit c && isDigitRun isDigit rest
  | c :: rest => isDigit c && isDigitRun isDigit rest

/-- Whether a text starts with a minus sign, and the text behind its sign. -/
def cutSign (s : List Char) : Bool × List Char :=
  match s with
  | '-' :: rest => (true, rest)
  | '+' :: rest => (false, rest)
  | _ => (false, s)

def withSign (isNegative : Bool) (n : Nat) : Int :=
  if isNegative then -n else n

/-- The text without the blanks around it, in which decimal digits of all scripts are ASCII ones. -/
def asciiNumeral (s : List Char) : List Char :=
  (Text.dropEndWhile isNumberBlank (s.dropWhile isNumberBlank)).map fun c =>
    match Text.decimalValue? c with
    | some value => Nat.digitChar value
    | none => c

/-- Why a text is not read as an integer. -/
inductive IntFault
  /-- The text is no numeral of the base. -/
  | unreadable (base : Nat) (text : String)
  /-- A decimal numeral has more digits than are read. -/
  | oversized (digits : Nat)
  deriving DecidableEq, Repr

/-- The greatest number of digits that a decimal numeral may have. -/
def digitLimit : Nat := 4300

def IntFault.message : IntFault → String
  | unreadable base text =>
    "invalid literal for int() with base " ++ toString base ++ ": " ++
      .ofList ((Text.quoted text).toList.take 200)
  | oversized digits =>
    "Exceeds the limit (" ++ toString digitLimit ++
      " digits) for integer string conversion: value has " ++ toString digits ++
      " digits; use sys.set_int_max_str_digits() to increase the limit"

/-- The letter that may stand behind a zero in front of the digits of a base. -/
def baseLetter? : Nat → Option Char
  | 2 => some 'b'
  | 8 => some 'o'
  | 16 => some 'x'
  | _ => none

/-- The text behind the mark of the base, of which an underscore may be a part. -/
def dropBase (base : Nat) (s : List Char) : List Char :=
  match s with
  | '0' :: letter :: rest =>
    if baseLetter? base == some letter.toLower then (Text.dropPrefix? ['_'] rest).getD rest else s
  | _ => s

/-- The integer that a text spells in a base, with decimal digits of any script. The size of a
decimal numeral is looked at before what follows its digits. -/
def readInt (base : Nat) (s : List Char) : Except IntFault Int :=
  let isDigit (c : Char) : Bool := (hexValue? c).any (· < base)
  let (isNegative, unsigned) := cutSign (asciiNumeral s)
  let numeral := dropBase base unsigned
  let run := numeral.takeWhile fun c => isDigit c || c == '_'
  let digits := run.filter (· != '_')
  if !isDigitRun isDigit run then .error (.unreadable base (.ofList s))
  else if base == 10 && digits.length > digitLimit then .error (.oversized digits.length)
  else if run.length != numeral.length then .error (.unreadable base (.ofList s))
  else .ok (withSign isNegative (natOfDigits base digits))

end RelSchema.Number
