import RelSchema.Sql.Group

/-!
References to other tables.
-/
namespace RelSchema.Ddl

structure Reference where
  table : String
  columns : List String
  deriving DecidableEq, Repr

/-- The last part of a qualified name. A quoted name is one part, dots included. -/
def objectName (token : Sql.Token) : String :=
  if token.kind == .quotedName then token.value
  else
    let last := ((Text.cutAtLast? '.' token.value.toList).map (·.2)).getD token.value.toList
    Naming.unquoteIdentifier (.ofList last)

/-- The target of the first `REFERENCES` among the tokens. -/
def reference? (tokens : List Sql.Token) : Option Reference :=
  match tokens.dropWhile (!·.isKeyword ["REFERENCES"]) with
  | _ :: target :: rest =>
    if target.isName then some ⟨objectName target, Sql.listedNames rest⟩ else none
  | _ => none

/-- A column of a table that refers to a column of another one. -/
structure ForeignKey where
  column : String
  table : String
  key : Option String
  deriving DecidableEq, Repr

/-- The columns of a key paired by position with those they refer to. -/
def pairColumns (table : String) : List String → List String → List ForeignKey
  | [], _ => []
  | column :: columns, keys => ⟨column, table, keys.head?⟩ :: pairColumns table columns keys.tail

/-- The foreign keys of a `FOREIGN KEY` constraint, from the tokens behind these two words. -/
def constraintKeys (tokens : List Sql.Token) : List ForeignKey :=
  match reference? tokens with
  | none => []
  | some reference => pairColumns reference.table (Sql.listedNames tokens) reference.columns

end RelSchema.Ddl
