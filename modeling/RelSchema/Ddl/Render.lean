import RelSchema.Ddl.Default
import RelSchema.Schema.Table

/-!
`CREATE TABLE` statements for tables.
-/
namespace RelSchema.Ddl

/-- What the clause of a column says about keys and absent values. -/
inductive Nullability
  | primaryKey
  | notNull
  | nullable
  deriving DecidableEq, Repr

def Nullability.text : Nullability → String
  | primaryKey => " PRIMARY KEY"
  | notNull => " NOT NULL"
  | nullable => ""

/-- The only column of a key is marked as the key; columns of a longer key must not be null. -/
def nullability (keys : List String) (column : Column) : Nullability :=
  let isKey := keys.any (Text.sameFold column.name)
  if isKey && keys.length ≤ 1 then .primaryKey
  else if isKey || !column.isNullable then .notNull
  else .nullable

/-- The clause of a column; one without a type is text. -/
def columnClause (dialect : Dialect) (keys : List String) (column : Column) : String :=
  Naming.quoteIdentifier dialect column.name ++ " " ++
    (if column.type == "" then "TEXT" else column.type) ++ (nullability keys column).text ++
    match column.defaultValue with
    | none => ""
    | some value => " DEFAULT " ++ renderDefault value

/-- The constraint that declares a key of several columns. -/
def keyClause (dialect : Dialect) (keys : List String) : List String :=
  if keys.length ≤ 1 then []
  else ["PRIMARY KEY (" ++ Text.joinWith ", " (keys.map (Naming.quoteIdentifier dialect)) ++ ")"]

def renderTable (dialect : Dialect) (table : Table) : String :=
  let keys := table.keyColumns
  let clauses := table.columns.map (columnClause dialect keys) ++ keyClause dialect keys
  "CREATE TABLE " ++ Naming.quoteIdentifier dialect table.name ++ " (\n  " ++
    Text.joinWith ",\n  " clauses ++ "\n);"

/-- The statements for all tables with blank lines between them. -/
def renderTables (dialect : Dialect) (tables : List Table) : String :=
  Text.joinWith "\n\n" (tables.map (renderTable dialect))

end RelSchema.Ddl
