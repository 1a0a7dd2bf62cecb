/-!
UTF-8: texts as bytes, which are natural numbers below 256 here. What is no text reads as
replacement characters, one for each longest start of a character that does not go on as one.
-/
namespace RelSchema.Text

def utf8 (c : Char) : List Nat :=
  let n := c.toNat
  if n < 0x80 then [n]
  else if n < 0x800 then [0xc0 + n / 64, 0x80 + n % 64]
  else if n < 0x10000 then [0xe0 + n / 4096, 0x80 + n / 64 % 64, 0x80 + n % 64]
  else [0xf0 + n / 262144, 0x80 + n / 4096 % 64, 0x80 + n / 64 % 64, 0x80 + n % 64]

def replacement : Char := '\ufffd'

/-- The start of a character: the number that its bytes spell so far, the count of bytes to come,
and the bounds of the next one. -/
structure Utf8Start where
  value : Nat
  missing : Nat
  least : Nat := 0x80
  greatest : Nat := 0xbf

/-- The characters that a byte ends at the start of a character, and the start it makes itself. -/
def utf8First (byte : Nat) : List Char × Option Utf8Start :=
  if byte < 0x80 then ([Char.ofNat byte], none)
  else if byte < 0xc2 then ([replacement], none)
  else if byte < 0xe0 then ([], some { value := byte - 0xc0, missing := 1 })
  else if byte == 0xe0 then ([], some { value := 0, missing := 2, least := 0xa0 })
  else if byte == 0xed then ([], some { value := 13, missing := 2, greatest := 0x9f })
  else if byte < 0xf0 then ([], some { value := byte - 0xe0, missing := 2 })
  else if byte == 0xf0 then ([], some { value := 0, missing := 3, least := 0x90 })
  else if byte < 0xf4 then ([], some { value := byte - 0xf0, missing := 3 })
  else if byte == 0xf4 then ([], some { value := 4, missing := 3, greatest := 0x8f })
  else ([replacement], none)

/-- The characters that a byte ends, and the start of a character behind it. -/
def utf8Next (start? : Option Utf8Start) (byte : Nat) : List Char × Option Utf8Start :=
  match start? with
  | none => utf8First byte
  | some start =>
    if start.least ≤ byte && byte ≤ start.greatest then
      let value := start.value * 64 + (byte - 0x80)
      if start.missing ≤ 1 then ([Char.ofNat value], none)
      else ([], some { value, missing := start.missing - 1 })
    else
      let (ended, next?) := utf8First byte
      (replacement :: ended, next?)

/-- The text that bytes spell behind the start of a character. -/
def ofUtf8After (start? : Option Utf8Start) : List Nat → List Char
  | [] => if start?.isSome then [replacement] else []
  | byte :: bytes =>
    let (ended, next?) := utf8Next start? byte
    ended ++ ofUtf8After next? bytes

def ofUtf8 (bytes : List Nat) : List Char :=
  ofUtf8After none bytes

/-!
Base 64: groups of four digits that stand for three bytes each. Characters that are no digits are
passed over.
-/

def base64Digit? (c : Char) : Option Nat :=
  if 'A' ≤ c && c ≤ 'Z' then some (c.toNat - 'A'.toNat)
  else if 'a' ≤ c && c ≤ 'z' then some (c.toNat - 'a'.toNat + 26)
  else if c.isDigit then some (c.toNat - '0'.toNat + 52)
  else if c == '+' then some 62
  else if c == '/' then some 63
  else none

/-- The whole bytes that a group of up to four digits stands for. -/
def base64Bytes : List Nat → List Nat
  | [a, b] => [a * 4 + b / 16]
  | [a, b, c] => [a * 4 + b / 16, b % 16 * 16 + c / 4]
  | [a, b, c, d] => [a * 4 + b / 16, b % 16 * 16 + c / 4, c % 4 * 64 + d]
  | _ => []

/-- The bytes of a text behind the digits of an open group and the signs that have filled it up
since. A group that is full of such signs ends the text, and no group may stay open. -/
def base64After (group : List Nat) (fillers : Nat) : List Char → Option (List Nat)
  | [] => if group.isEmpty then some [] else none
  | c :: rest =>
    if c == '=' then
      if group.length < 2 then base64After group fillers rest
      else if group.length + fillers + 1 ≥ 4 then some (base64Bytes group)
      else base64After group (fillers + 1) rest
    else match base64Digit? c with
      | none => base64After group fillers rest
      | some digit =>
        if group.length < 3 then base64After (group ++ [digit]) 0 rest
        else (base64After [] 0 rest).map (base64Bytes (group ++ [digit]) ++ ·)

def ofBase64? (s : List Char) : Option (List Nat) :=
  base64After [] 0 s

end RelSchema.Text
