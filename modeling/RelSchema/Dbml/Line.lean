import RelSchema.Dbml.Name
import RelSchema.Text.Case

/-!
The kinds of lines outside columns: headers of tables, references and the braces of blocks.
-/
namespace RelSchema.Dbml

/-- The quotes inside of which two slashes start no comment. -/
def quotes : List Char := ['\'', '"', '\x60']

/-- The line up to its comment, where `quote?` is the open quote in front of it. -/
def withoutComment (quote? : Option Char) : List Char → List Char
  | [] => []
  | c :: rest =>
    match quote? with
    | some quote => c :: withoutComment (if c == quote then none else quote?) rest
    | none =>
      if quotes.contains c then c :: withoutComment (some c) rest
      else if c == '/' && rest.head? == some '/' then []
      else c :: withoutComment none rest

/-- The content of a line: what is left without comment and blanks around it. -/
def content (line : List Char) : List Char :=
  Text.trim (withoutComment none line)

/-- Whether a header may end in the text: settings in brackets, if any, and an opening brace. -/
def isHeaderEnd (s : List Char) : Bool :=
  match Text.trimLeft s with
  | ['{'] => true
  | '[' :: rest =>
    match Text.cutAt? ']' rest with
    | some (_, tail) => Text.trimLeft tail == ['{']
    | none => false
  | _ => false

def dropBlanks? : List Char → Option (List Char)
  | [] => none
  | c :: rest => if Text.isBlank c then some (Text.trimLeft rest) else none

/-- Whether a non-empty start of the text without blanks can be left out so that the rest ends a
header. -/
def hasHeaderEndInside : List Char → Bool
  | [] => false
  | c :: rest => !Text.isBlank c && (isHeaderEnd rest || hasHeaderEndInside rest)

def isAliasedHeaderEnd (s : List Char) : Bool :=
  match dropBlanks? s >>= Text.dropKeyword? "as".toList >>= dropBlanks? with
  | some rest => hasHeaderEndInside rest
  | none => false

def header? (line : List Char) : Option String :=
  match Text.dropKeyword? "table".toList line >>= dropBlanks? with
  | none => none
  | some rest =>
    ((names rest).find? fun (_, tail) => isAliasedHeaderEnd tail || isHeaderEnd tail).map
      fun (name, _) => tableName name

/-- Whether the text may stand between the word `ref` and the sign behind it: nothing, or a blank
and a name. -/
def isReferenceName (s : List Char) : Bool :=
  !s.contains ':' && !s.contains '{' && (s.isEmpty || s.head?.any Text.isBlank)

def opensReferences (line : List Char) : Bool :=
  match Text.dropKeyword? "ref".toList line with
  | some rest => rest.getLast? == some '{' && isReferenceName rest.dropLast
  | none => false

/-- The reference that a line outside blocks consists of. -/
def reference? (line : List Char) : Option (List Char) :=
  match Text.dropKeyword? "ref".toList line >>= Text.cutAt? ':' with
  | some (name, body) =>
    if isReferenceName name && !(Text.trimLeft body).isEmpty then some (Text.trimLeft body)
    else none
  | none => none

/-- Whether the line sets a note or a reference of the table around it. -/
def isTableSetting (line : List Char) : Bool :=
  let isSetting (word : String) : Bool :=
    ((Text.dropKeyword? word.toList line).map Text.trimLeft).any (·.head? == some ':')
  isSetting "note" || isSetting "ref"

def opensBlock (line : List Char) : Bool :=
  line.getLast? == some '{'

/-- By how much the line changes the number of open braces. -/
def braceBalance (line : List Char) : Int :=
  (line.count '{' : Int) - line.count '}'

end RelSchema.Dbml
