import RelSchema.Models.Tag
import RelSchema.Models.Comment
import RelSchema.Naming.Case
import RelSchema.Naming.Plural
import RelSchema.Sql.Bracket
import RelSchema.Text.Trim
import RelSchema.Types.Scalar

/-!
Declarations of structures and their fields.
-/
namespace RelSchema.Models

structure Field where
  name : String
  type : String
  options : Options
  deriving DecidableEq, Repr

/-- A structure: the fields that hold values and those that refer to other structures. -/
structure Declaration where
  name : String
  columns : List Field
  relations : List Field
  deriving DecidableEq, Repr

def tableNameFor (structName : String) : String :=
  Naming.pluralize (Naming.toSnakeCase structName)

namespace Field

/-- The name of the column for a field: the one its options give, or else one made of its own. -/
def columnName (field : Field) : String :=
  (field.options.given? "column").getD (Naming.toSnakeCase field.name)

end Field

namespace Declaration

def tableName (declaration : Declaration) : String :=
  tableNameFor declaration.name

def columnFor? (declaration : Declaration) (fieldName : String) : Option String :=
  (declaration.columns.find? (·.name == fieldName)).map (·.columnName)

end Declaration

/-- Whether fields of the type refer to other structures: lists of anything but scalars, and all
that is neither a scalar nor qualified. -/
def isRelationType (type : String) : Bool :=
  match type.toList with
  | '[' :: ']' :: item => !Scalar.isScalarType (.ofList item)
  | '*' :: target => !Scalar.isScalarType (.ofList target) && !target.contains '.'
  | cs => !Scalar.isScalarType type && !cs.contains '.'

def dropBlanks? : List Char → Option (List Char)
  | [] => none
  | c :: rest => if Text.isBlank c then some (Text.trimLeft rest) else none

/-- The word in front of the text, and what is behind it. -/
def takeWord? (s : List Char) : Option (String × List Char) :=
  let word := s.takeWhile Text.isWordChar
  if word.isEmpty then none else some (.ofList word, s.dropWhile Text.isWordChar)

/-- The name in a header `type Name struct` in front of a brace, from the text behind its first
word on, and the text from the brace on. -/
def readHeader? (s : List Char) : Option (String × List Char) := do
  let (name, rest) ← takeWord? (← dropBlanks? s)
  let rest ← dropBlanks? rest
  let rest := ((Text.dropPrefix? "struct".toList rest).map Text.trimLeft).getD rest
  if rest.head? == some '{' then return (name, rest) else none

/-- The headers in a text, each as its name and the text from its opening brace on; `before?` is
the character in front of the text, and `skip` counts the characters that belong to the last
header. -/
def headersFrom (skip : Nat) (before? : Option Char) : List Char → List (String × List Char)
  | [] => []
  | c :: rest =>
    match skip with
    | skip + 1 => headersFrom skip (some c) rest
    | 0 =>
      let found? :=
        if before?.any Text.isWordChar then none
        else (Text.dropPrefix? "type".toList (c :: rest)).bind readHeader?
      match found? with
      | some (name, text) =>
        (name, text) :: headersFrom (rest.length + 1 - text.length) (some c) rest
      | none => headersFrom 0 (some c) rest

def isTypeChar (c : Char) : Bool :=
  Text.isWordChar c || c == '.' || c == '*' || c == '[' || c == ']'

/-- The text between grave accents that ends a line; there may be none. -/
def readTagText? (s : List Char) : Option (List Char) :=
  match s with
  | [] => some []
  | '\x60' :: rest =>
    match Text.cutAt? '\x60' rest with
    | some (found, tail) => if (Text.trimLeft tail).isEmpty then some found else none
    | none => none
  | _ => none

/-- The field that a line declares: a name, a type and perhaps an annotation. -/
def readField? (tag : String) (line : List Char) : Option Field := do
  let (name, rest) ← takeWord? (Text.trim line)
  let rest ← dropBlanks? rest
  let type := rest.takeWhile isTypeChar
  if type.isEmpty then none
  else
    let tags ← readTagText? (Text.trimLeft (rest.dropWhile isTypeChar))
    return { name, type := .ofList type, options := readTag tags tag }

def readDeclaration? (tag : String) (name : String) (text : List Char) : Option Declaration :=
  let body := Sql.Brackets.inside { opening := '{', closing := '}', quotes } text
  if (Text.trim body).isEmpty then none
  else
    let (relations, columns) :=
      ((Text.lines body).filterMap (readField? tag)).partition fun field =>
        isRelationType field.type
    some { name, columns, relations }

/-- The declarations of a source without comments, in order. -/
def declarations (tag : String) (source : List Char) : List Declaration :=
  (headersFrom 0 none source).filterMap fun (name, text) => readDeclaration? tag name text

end RelSchema.Models
