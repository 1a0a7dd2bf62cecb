import RelSchema.Data.Basic
import RelSchema.Number.Integer

/-!
The ways in which a text fails to be JSON.
-/
namespace RelSchema.Json

/-- What a reader found instead of JSON. -/
inductive Reason
  | value
  | memberName
  | colon
  | comma
  | unclosedText
  | controlCharacter
  | escape
  | unicodeEscape
  | trailing
  | byteOrderMark
  | integer (fault : Number.IntFault)
  /-- A value, of which the kind is told, lies in too many others. -/
  | nesting (kind : String)
  deriving DecidableEq, Repr

def Reason.message : Reason → String
  | value => "Expecting value"
  | memberName => "Expecting property name enclosed in double quotes"
  | colon => "Expecting ':' delimiter"
  | comma => "Expecting ',' delimiter"
  | unclosedText => "Unterminated string starting at"
  | controlCharacter => "Invalid control character at"
  | escape => "Invalid \\escape"
  | unicodeEscape => "Invalid \\uXXXX escape"
  | trailing => "Extra data"
  | byteOrderMark => "Unexpected UTF-8 BOM (decode using utf-8-sig)"
  | integer fault => fault.message
  | nesting kind =>
    "maximum recursion depth exceeded while decoding a JSON " ++ kind ++ " from a unicode string"

/-- A reason with the place it concerns: lines and columns count from one, the offset from zero. -/
structure Fault where
  reason : Reason
  line : Nat
  column : Nat
  offset : Nat
  deriving DecidableEq, Repr

namespace Fault

/-- The place is given by the part of the text that precedes it. -/
def after (reason : Reason) (before : List Char) : Fault :=
  { reason
    line := before.count '\n' + 1
    column := (before.reverse.takeWhile (· != '\n')).length + 1
    offset := before.length }

/-- The reason, with its place where the text is not even of the form of JSON. -/
def message (fault : Fault) : String :=
  match fault.reason with
  | .integer _ | .nesting _ => fault.reason.message
  | _ => fault.reason.message ++ ": line " ++ toString fault.line ++ " column " ++
      toString fault.column ++ " (char " ++ toString fault.offset ++ ")"

end Fault

/-!
Reading JSON. A reader takes the rest of the text and returns a value and what is left, or a
reason together with the part of the text at which it arose.
-/

/-- A reason and the rest of the text from the place of the fault on. -/
structure Stop where
  reason : Reason
  rest : List Char

def isSpace (c : Char) : Bool :=
  c == ' ' || c == '\t' || c == '\n' || c == '\r'

def skipSpace (s : List Char) : List Char :=
  s.dropWhile isSpace

/-- The number that four hexadecimal digits spell. -/
def hexUnit? (a b c d : Char) : Option Nat := do
  let a ← Number.hexValue? a
  let b ← Number.hexValue? b
  let c ← Number.hexValue? c
  let d ← Number.hexValue? d
  return ((a * 16 + b) * 16 + c) * 16 + d

def isHighSurrogate (unit : Nat) : Bool := 0xd800 ≤ unit && unit < 0xdc00

def isLowSurrogate (unit : Nat) : Bool := 0xdc00 ≤ unit && unit < 0xe000

/-- The text of code points; none if one of them is a surrogate. -/
def textOfCodes (codes : List Nat) : Data :=
  if codes.any fun code => isHighSurrogate code || isLowSurrogate code then .brokenText
  else .text (.ofList (codes.map Char.ofNat))

/-- The character that a letter behind a backslash stands for. -/
def simpleEscape? : Char → Option Char
  | '"' => some '"'
  | '\\' => some '\\'
  | '/' => some '/'
  | 'b' => some '\x08'
  | 'f' => some '\x0c'
  | 'n' => some '\n'
  | 'r' => some '\r'
  | 't' => some '\t'
  | _ => none

/-- A code point in front of those read behind it. A high surrogate and a low one directly behind it
make up one code point. -/
def prependCode (code : Nat) : List Nat × List Char → List Nat × List Char
  | (low :: codes, rest) =>
    if isHighSurrogate code && isLowSurrogate low then
      ((0x10000 + (code - 0xd800) * 0x400 + (low - 0xdc00)) :: codes, rest)
    else (code :: low :: codes, rest)
  | ([], rest) => ([code], rest)

/-- The code points of a text up to its closing quote; `opened` is the text from its opening quote
on. Some character has to follow the four digits behind `\u`. -/
def readCodes (opened : List Char) : List Char → Except Stop (List Nat × List Char)
  | [] | ['\\'] => .error ⟨.unclosedText, opened⟩
  | '"' :: rest => .ok ([], rest)
  | '\\' :: 'u' :: a :: b :: c :: d :: next :: rest =>
    match hexUnit? a b c d with
    | none => .error ⟨.unicodeEscape, 'u' :: a :: b :: c :: d :: next :: rest⟩
    | some unit => (readCodes opened (next :: rest)).map (prependCode unit)
  | '\\' :: 'u' :: digits => .error ⟨.unicodeEscape, 'u' :: digits⟩
  | '\\' :: c :: rest =>
    match simpleEscape? c with
    | none => .error ⟨.escape, '\\' :: c :: rest⟩
    | some c => (readCodes opened rest).map (prependCode c.toNat)
  | c :: rest =>
    if c.toNat < 0x20 then .error ⟨.controlCharacter, c :: rest⟩
    else (readCodes opened rest).map (prependCode c.toNat)

/-- The text whose opening quote is the first character of `s`. -/
def readText (s : List Char) : Except Stop (Data × List Char) := do
  let (codes, rest) ← readCodes s (s.drop 1)
  return (textOfCodes codes, rest)

/-- The digits behind a decimal point, if the text starts with such. -/
def fraction? : List Char → Option (List Char × List Char)
  | '.' :: rest =>
    let digits := rest.takeWhile Char.isDigit
    if digits.isEmpty then none else some (digits, rest.dropWhile Char.isDigit)
  | _ => none

def power? : List Char → Option (Int × List Char)
  | mark :: rest =>
    if mark == 'e' || mark == 'E' then
      let (isNegative, rest) := Number.cutSign rest
      let digits := rest.takeWhile Char.isDigit
      if digits.isEmpty then none
      else some (Number.withSign isNegative (Number.natOfDigits 10 digits),
        rest.dropWhile Char.isDigit)
    else none
  | [] => none

/-- The digits in front of a decimal point: a zero stands alone. -/
def whole? (s : List Char) : Option (List Char × List Char) :=
  match s with
  | '0' :: rest => some (['0'], rest)
  | _ =>
    let digits := s.takeWhile Char.isDigit
    if digits.isEmpty then none else some (digits, s.dropWhile Char.isDigit)

/-- The integer that digits spell, of which there may not be too many. -/
def readDigits (negative : Bool) (digits rest : List Char) : Except Stop (Data × List Char) :=
  match Number.readInt 10 digits with
  | .ok value => .ok (.int (if negative then -value else value), rest)
  | .error fault => .error ⟨.integer fault, rest⟩

def readNumber (s : List Char) : Except Stop (Data × List Char) :=
  let (negative, unsigned) := match s with
    | '-' :: rest => (true, rest)
    | _ => (false, s)
  match whole? unsigned with
  | none => .error ⟨.value, s⟩
  | some (whole, rest) =>
    let fraction := fraction? rest
    let rest := (fraction.map (·.2)).getD rest
    let power := power? rest
    if fraction.isNone && power.isNone then readDigits negative whole rest
    else
      let places := (fraction.map (·.1)).getD []
      let exponent := (power.map (·.1)).getD 0 - places.length
      .ok (.double (.ofDecimal negative (Number.natOfDigits 10 (whole ++ places)) exponent),
        (power.map (·.2)).getD rest)

/-- The constants, longer ones of a common start first. -/
def constants : List (String × Data) := [
  ("null", .null), ("true", .bool true), ("false", .bool false), ("NaN", .double .nan),
  ("Infinity", .double (.infinite false)), ("-Infinity", .double (.infinite true))]

def readConstant? (s : List Char) : Option (Data × List Char) :=
  constants.findSome? fun (name, value) =>
    if name.toList.isPrefixOf s then some (value, s.drop name.length) else none

/-- The number of lists and records that may lie in each other. -/
def nestingLimit : Nat := 980

mutual

/-- The value that the text starts with, which lies in `depth` others. -/
def readValue (depth : Nat) : (fuel : Nat) → List Char → Except Stop (Data × List Char)
  | 0, s => .error ⟨.value, s⟩
  | fuel + 1, s =>
    match s with
    | '"' :: _ => readText s
    | '{' :: rest =>
      if nestingLimit ≤ depth then .error ⟨.nesting "object", s⟩
      else match skipSpace rest with
        | '}' :: rest => .ok (.record [], rest)
        | rest => do
          let (members, rest) ← readMembers (depth + 1) fuel [] rest
          return (.record members, rest)
    | '[' :: rest =>
      if nestingLimit ≤ depth then .error ⟨.nesting "array", s⟩
      else match skipSpace rest with
        | ']' :: rest => .ok (.list [], rest)
        | rest => do
          let (items, rest) ← readItems (depth + 1) fuel rest
          return (.list items, rest)
    | _ =>
      match readConstant? s with
      | some reading => .ok reading
      | none => readNumber s

/-- The members up to the closing brace, added to those before; of two with one name the later
value counts. -/
def readMembers (depth : Nat) :
    (fuel : Nat) → List (Data × Data) → List Char → Except Stop (List (Data × Data) × List Char)
  | 0, _, s => .error ⟨.memberName, s⟩
  | fuel + 1, members, s =>
    match s with
    | '"' :: _ => do
      let (name, rest) ← readText s
      match skipSpace rest with
      | ':' :: rest =>
        let (value, rest) ← readValue depth fuel (skipSpace rest)
        let members := Data.setMember name value members
        match skipSpace rest with
        | '}' :: rest => return (members, rest)
        | ',' :: rest => readMembers depth fuel members (skipSpace rest)
        | rest => throw ⟨.comma, rest⟩
      | rest => throw ⟨.colon, rest⟩
    | _ => .error ⟨.memberName, s⟩

def readItems (depth : Nat) : (fuel : Nat) → List Char → Except Stop (List Data × List Char)
  | 0, s => .error ⟨.value, s⟩
  | fuel + 1, s => do
    let (item, rest) ← readValue depth fuel s
    match skipSpace rest with
    | ']' :: rest => return ([item], rest)
    | ',' :: rest =>
      let (items, rest) ← readItems depth fuel (skipSpace rest)
      return (item :: items, rest)
    | rest => throw ⟨.comma, rest⟩

end

/-- The value of a whole text, or the fault with its place. -/
def read (text : String) : Except Fault Data :=
  let s := text.toList
  let faultAt (stop : Stop) : Fault :=
    Fault.after stop.reason (s.take (s.length - stop.rest.length))
  match s with
  | '\ufeff' :: _ => .error (faultAt ⟨.byteOrderMark, s⟩)
  | _ =>
    match readValue 0 (2 * s.length + 2) (skipSpace s) with
    | .error stop => .error (faultAt stop)
    | .ok (value, rest) =>
      match skipSpace rest with
      | [] => .ok value
      | rest => .error (faultAt ⟨.trailing, rest⟩)

end RelSchema.Json
