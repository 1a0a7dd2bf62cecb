import RelSchema.Number.Integer

/-!
The texts of a TOML document: gaps, comments, and strings with and without escapes. A reader
answers a value and the text behind it, or nothing for a text that is malformed.
-/
namespace RelSchema.Toml

def isGap (c : Char) : Bool :=
  c == ' ' || c == '\t'

def skipGap (s : List Char) : List Char :=
  s.dropWhile isGap

/-- The control characters, which no string and no comment holds, apart from tabs. -/
def isForbidden (c : Char) : Bool :=
  (c.toNat < 0x20 && c != '\t') || c.toNat == 0x7f

/-- The text behind a comment, if one starts here. -/
def skipComment? (s : List Char) : Option (List Char) :=
  match s with
  | '#' :: rest =>
    if (rest.takeWhile (· != '\n')).any isForbidden then none
    else some (rest.dropWhile (· != '\n'))
  | _ => some s

/-- The text behind gaps, ends of lines and comments. -/
def skipFiller? : (fuel : Nat) → List Char → Option (List Char)
  | 0, s => some s
  | fuel + 1, s =>
    let rest := s.dropWhile fun c => isGap c || c == '\n'
    match rest with
    | '#' :: _ => skipComment? rest >>= skipFiller? fuel
    | _ => some rest

def simpleEscape? : Char → Option Char
  | 'b' => some '\x08'
  | 't' => some '\t'
  | 'n' => some '\n'
  | 'f' => some '\x0c'
  | 'r' => some '\r'
  | '"' => some '"'
  | '\\' => some '\\'
  | _ => none

/-- The character whose number has `count` hexadecimal digits. -/
def readCode (count : Nat) (s : List Char) : Option (List Char × List Char) :=
  let digits := s.take count
  let code := Number.natOfDigits 16 digits
  if digits.length == count && digits.all Number.isHexDigit && code.isValidChar then
    some ([Char.ofNat code], s.drop count)
  else none

/-- What stands behind a backslash at the end of a line: nothing, together with the gaps and ends
of lines that follow. -/
def readLineEnd (s : List Char) : Option (List Char × List Char) :=
  match skipGap s with
  | [] => some ([], [])
  | '\n' :: rest => some ([], rest.dropWhile fun c => isGap c || c == '\n')
  | _ => none

/-- What the text behind a backslash stands for. -/
def readEscape (spansLines : Bool) (s : List Char) : Option (List Char × List Char) :=
  match s with
  | [] => none
  | c :: rest =>
    if spansLines && (isGap c || c == '\n') then readLineEnd s
    else if c == 'u' then readCode 4 rest
    else if c == 'U' then readCode 8 rest
    else (simpleEscape? c).map fun c => ([c], rest)

def prepend (start : List Char) (reading : Option (List Char × List Char)) :
    Option (List Char × List Char) :=
  reading.map fun (text, rest) => (start ++ text, rest)

/-- The text up to the closing quote, or the first three quotes in a row if it spans lines. -/
def readEscaped (spansLines : Bool) : (fuel : Nat) → List Char → Option (List Char × List Char)
  | 0, _ => none
  | fuel + 1, s =>
    match s with
    | [] => none
    | '"' :: rest =>
      if spansLines then
        match rest with
        | '"' :: '"' :: rest => some ([], rest)
        | _ => prepend ['"'] (readEscaped spansLines fuel rest)
      else some ([], rest)
    | '\\' :: rest => do
      let (escaped, rest) ← readEscape spansLines rest
      prepend escaped (readEscaped spansLines fuel rest)
    | c :: rest =>
      if isForbidden c && !(spansLines && c == '\n') then none
      else prepend [c] (readEscaped spansLines fuel rest)

/-- The text up to an apostrophe in the same line. -/
def readLiteral (s : List Char) : Option (List Char × List Char) := do
  let (text, rest) ← Text.cutAt? '\'' s
  if text.any isForbidden then none else some (text, rest)

/-- The text in front of the first three apostrophes in a row. -/
def cutApostrophes? : List Char → Option (List Char × List Char)
  | [] => none
  | '\'' :: '\'' :: '\'' :: rest => some ([], rest)
  | c :: rest => prepend [c] (cutApostrophes? rest)

def readLiteralLines (s : List Char) : Option (List Char × List Char) := do
  let (text, rest) ← cutApostrophes? s
  if text.any fun c => isForbidden c && c != '\n' then none else some (text, rest)

/-- The text of a string that spans lines with the one or two quotes that may follow it, which
belong to it: the closing quotes are the last three. -/
def withQuotes (quote : Char) (reading : Option (List Char × List Char)) :
    Option (List Char × List Char) := do
  let (text, rest) ← reading
  let quotes := (rest.take 2).takeWhile (· == quote)
  return (text ++ quotes, rest.drop quotes.length)

/-- A line feed directly behind the opening quotes does not count. -/
def skipFirstBreak (s : List Char) : List Char :=
  match s with
  | '\n' :: rest => rest
  | _ => s

/-- The string whose opening quotes the text starts with. -/
def readString (s : List Char) : Option (List Char × List Char) :=
  match s with
  | '"' :: '"' :: '"' :: rest =>
    withQuotes '"' (readEscaped true s.length (skipFirstBreak rest))
  | '"' :: rest => readEscaped false s.length rest
  | '\'' :: '\'' :: '\'' :: rest => withQuotes '\'' (readLiteralLines (skipFirstBreak rest))
  | '\'' :: rest => readLiteral rest
  | _ => none

def isBareKeyChar (c : Char) : Bool :=
  c.isAlphanum || c == '-' || c == '_'

/-- A part of a key; a quoted one stands in one line. -/
def readKeyPart (s : List Char) : Option (String × List Char) :=
  let part : Option (List Char × List Char) := match s with
    | '"' :: rest => readEscaped false s.length rest
    | '\'' :: rest => readLiteral rest
    | _ =>
      let name := s.takeWhile isBareKeyChar
      if name.isEmpty then none else some (name, s.dropWhile isBareKeyChar)
  part.map fun (name, rest) => (.ofList name, rest)

/-- A key: parts with dots between them. -/
def readKey : (fuel : Nat) → List Char → Option (List String × List Char)
  | 0, _ => none
  | fuel + 1, s => do
    let (part, rest) ← readKeyPart s
    match skipGap rest with
    | '.' :: rest =>
      let (parts, rest) ← readKey fuel (skipGap rest)
      return (part :: parts, rest)
    | rest => return ([part], rest)

end RelSchema.Toml
