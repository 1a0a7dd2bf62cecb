import RelSchema.Naming.Quote
import RelSchema.Sql.Token
import RelSchema.Text.Trim

/-!
Default values of columns: reading them from a definition and writing them into one.
-/
namespace RelSchema.Ddl

/-- The keywords that end the default of a column. -/
def defaultTerminators : List String := [
  "NOT", "NULL", "PRIMARY", "UNIQUE", "CHECK", "REFERENCES", "CONSTRAINT", "COLLATE",
  "AUTO_INCREMENT", "AUTOINCREMENT", "COMMENT", "GENERATED", "ON"]

/-- The tokens of a default: up to a terminator outside parentheses, which counts only behind the
first token, or to a parenthesis that closes none of them. -/
def defaultTokens (isFirst : Bool) (depth : Nat) : List Sql.Token → List Sql.Token
  | [] => []
  | token :: tokens =>
    if depth == 0 && !isFirst && token.isKeyword defaultTerminators then []
    else
      match token.kind, depth with
      | .closing, 0 => []
      | .closing, depth + 1 => token :: defaultTokens false depth tokens
      | .opening, depth => token :: defaultTokens false (depth + 1) tokens
      | _, depth => token :: defaultTokens false depth tokens

/-- The text without a pair of equal quotes around it. -/
def withoutQuotes (text : List Char) : List Char :=
  match text with
  | first :: second :: rest =>
    if Sql.isQuote first && (second :: rest).getLast? == some first then (second :: rest).dropLast
    else text
  | _ => text

/-- The trimmed text between two positions of a definition, without commas at its end. -/
def defaultText (definition : List Char) (start stop : Nat) : List Char :=
  Text.trim (Text.dropEndWhile (· == ',') (Text.trim (Sql.slice definition start stop)))

def defaultOfTokens (definition : List Char) : List Sql.Token → String
  | [] => ""
  | first :: rest =>
    if rest.isEmpty && (first.kind == .string || first.kind == .quotedName) then first.value
    else
      let last := rest.getLast?.getD first
      .ofList (withoutQuotes (defaultText definition first.start last.stop))

/-- The default among the tokens behind the type of a column. -/
def default? (definition : List Char) (tokens : List Sql.Token) : Option String :=
  match tokens.dropWhile (!·.isKeyword ["DEFAULT"]) with
  | [] | [_] => none
  | _ :: clause => some (defaultOfTokens definition (defaultTokens true 0 clause))

/-- A whole or decimal number, with or without a sign. -/
def isNumber (s : List Char) : Bool :=
  let unsigned := match s with
    | c :: rest => if c == '+' || c == '-' then rest else s
    | [] => []
  let whole := unsigned.takeWhile Text.isDecimal
  !whole.isEmpty && match unsigned.dropWhile Text.isDecimal with
    | [] => true
    | c :: fraction => c == '.' && !fraction.isEmpty && fraction.all Text.isDecimal

def isWord (word : String) (s : List Char) : Bool :=
  Text.dropKeyword? word.toList s == some []

/-- One of the keywords that stand for the present time. -/
def isCurrent (s : List Char) : Bool :=
  match Text.dropKeyword? "current_".toList s with
  | none => false
  | some rest => !rest.isEmpty && rest.all Text.isWordChar

/-- A qualified name with arguments on one line. -/
def isCall (s : List Char) : Bool :=
  let isNameChar (c : Char) : Bool := Text.isWordChar c || c == '.'
  !(s.takeWhile isNameChar).isEmpty && match s.dropWhile isNameChar with
    | [] => false
    | c :: rest => c == '(' && rest.getLast? == some ')' && !rest.contains '\n'

/-- A default that is written without quotes. -/
def isBare (s : List Char) : Bool :=
  isNumber s || isWord "true" s || isWord "false" s || isWord "null" s || isCurrent s || isCall s

/-- The default as a clause shows it: bare where that is possible, possibly with one line break at
its end, as it is if it looks like a literal or an expression, and quoted otherwise. -/
def renderDefault (value : String) : String :=
  let s := value.toList
  if isBare s || (s.getLast? == some '\n' && isBare s.dropLast) then value
  else if s.head? == some '\'' || (s.head? == some '(' && s.getLast? == some ')') then value
  else .ofList (Naming.enclosed '\'' s)

end RelSchema.Ddl
