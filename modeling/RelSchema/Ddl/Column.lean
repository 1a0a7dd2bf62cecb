import RelSchema.Ddl.Default
import RelSchema.Ddl.Reference
import RelSchema.Schema.Column

/-!
Column definitions.
-/
namespace RelSchema.Ddl

/-- The types whose columns number the rows and are keys by themselves. -/
def serialTypes : List String := ["SERIAL", "BIGSERIAL", "SMALLSERIAL"]

/-- The words behind the name of a type that still belong to it. -/
def typeSuffixes : List (List String) := [
  ["PRECISION"], ["VARYING"], ["UNSIGNED"], ["ZEROFILL"], ["WITH", "TIME", "ZONE"],
  ["WITHOUT", "TIME", "ZONE"]]

def startsWith : List String → List Sql.Token → Bool
  | [], _ => true
  | _ :: _, [] => false
  | word :: words, token :: tokens => token.isKeyword [word] && startsWith words tokens

/-- The number of tokens that continue the type in front of them. -/
def suffixLength (tokens : List Sql.Token) : Nat :=
  ((typeSuffixes.find? fun suffix => startsWith suffix tokens).map List.length).getD 0

/-- The end of a type that reaches at least to `stop`, and the tokens behind it. -/
def typeEnd (stop : Nat) (tokens : List Sql.Token) : Nat × List Sql.Token :=
  match _h : Sql.group? tokens with
  | some group => typeEnd group.close.stop group.rest
  | none =>
    if suffixLength tokens = 0 ∨ tokens = [] then (stop, tokens)
    else
      let last := ((tokens.take (suffixLength tokens)).getLast?.map (·.stop)).getD stop
      typeEnd last (tokens.drop (suffixLength tokens))
termination_by tokens.length
decreasing_by
  · exact Sql.length_rest_lt_of_group? ‹_›
  · have : tokens.length ≠ 0 := by simp_all
    simp only [List.length_drop]
    omega

/-- Whether the first word is directly followed by the second one. -/
def hasPair (first second : String) : List String → Bool
  | a :: b :: rest => (a == first && b == second) || hasPair first second (b :: rest)
  | _ => false

def columnName (token : Sql.Token) : String :=
  if token.kind == .quotedName then token.value else Naming.unquoteIdentifier token.value

/-- The column with the given name token and type token, and the tokens behind them. -/
def readColumn (definition : List Char) (name type : Sql.Token) (rest : List Sql.Token) :
    Column :=
  let (stop, modifiers) := typeEnd type.stop rest
  let words := (modifiers.filter (·.kind == .word)).map (·.upper)
  let isPrimaryKey := hasPair "PRIMARY" "KEY" words || serialTypes.contains type.upper
  let column : Column := {
    name := columnName name
    type := .ofList (Sql.slice definition type.start stop)
    isPrimaryKey
    isNullable := !(isPrimaryKey || hasPair "NOT" "NULL" words)
    defaultValue := default? definition modifiers }
  match reference? modifiers with
  | none => column
  | some reference => column.asForeignKey reference.table reference.columns.head?

def column? (definition : List Char) : List Sql.Token → Option Column
  | name :: type :: rest =>
    if name.isName && type.kind == .word && columnName name != "" then
      some (readColumn definition name type rest)
    else none
  | _ => none

end RelSchema.Ddl
