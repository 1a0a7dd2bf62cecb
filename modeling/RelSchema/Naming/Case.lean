import RelSchema.Text.Case
import RelSchema.Text.Trim

/-!
Conversion of names between `snake_case` and `PascalCase`.
-/
namespace RelSchema.Naming

/-- Whether a word starts at the capital `c` between the characters `before` and `after`: behind a
small letter or digit, and at the last capital of a run that a small letter follows. -/
def startsWord (before : Option Char) (c : Char) (after : Option Char) : Bool :=
  c.isUpper && match before with
  | none => false
  | some b => b.isLower || Text.isDecimal b || (b.isUpper && after.any Char.isLower)

/-- The text after the character `before`, with an underscore in front of every word that starts
inside it. -/
def separateWords (before : Option Char) : List Char → List Char
  | [] => []
  | c :: rest =>
    if startsWord before c rest.head? then '_' :: c :: separateWords (some c) rest
    else c :: separateWords (some c) rest

/-- A name as lower-case words with underscores between them. -/
def toSnakeCase (name : String) : String :=
  let separated := separateWords none name.toList
  Text.lower (.ofList (separated.map fun c => if c == '-' then '_' else c))

/-- The words that are written in capitals. -/
def acronym? : String → Option String
  | "id" => some "ID"
  | "url" => some "URL"
  | "api" => some "API"
  | "ip" => some "IP"
  | "http" => some "HTTP"
  | "https" => some "HTTPS"
  | "sql" => some "SQL"
  | "ssh" => some "SSH"
  | "uuid" => some "UUID"
  | "uri" => some "URI"
  | "html" => some "HTML"
  | "css" => some "CSS"
  | "json" => some "JSON"
  | "xml" => some "XML"
  | "cpu" => some "CPU"
  | "gpu" => some "GPU"
  | _ => none

/-- The word with its first letter in upper case, or all of it for an acronym. -/
def capitalize : List Char → List Char
  | [] => []
  | c :: rest =>
    match acronym? (Text.lower (.ofList (c :: rest))) with
    | some capitals => capitals.toList
    | none => Text.upperChar c ++ rest

/-- The words of a name with capitals in place of the underscores. -/
def toPascalCase (name : String) : String :=
  .ofList ((Text.splitAt '_' name.toList).flatMap capitalize)

end RelSchema.Naming
