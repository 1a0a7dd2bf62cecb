import RelSchema.Ddl.Column
import RelSchema.Ddl.Dialect
import RelSchema.Schema.Table
import RelSchema.Sql.Bracket
import RelSchema.Sql.Quote
import RelSchema.Sql.Split

/-!
Scripts of `CREATE TABLE` statements. What cannot be read is passed over.
-/
namespace RelSchema.Ddl

/-- The first words of table constraints that carry nothing of interest. -/
def ignoredConstraints : List String :=
  ["UNIQUE", "CHECK", "CONSTRAINT", "INDEX", "KEY", "FULLTEXT", "SPATIAL"]

inductive Definition
  | primaryKey (names : List String)
  | foreignKeys (keys : List ForeignKey)
  | column (column : Column)
  | nothing
  deriving DecidableEq, Repr

def readDefinition (dialect : Dialect) (text : List Char) : Definition :=
  let tokens := tokens dialect text
  if startsWith ["PRIMARY", "KEY"] tokens then .primaryKey (Sql.listedNames (tokens.drop 2))
  else if startsWith ["FOREIGN", "KEY"] tokens then .foreignKeys (constraintKeys (tokens.drop 2))
  else if tokens.head?.any (·.isKeyword ignoredConstraints) then .nothing
  else ((column? text tokens).map .column).getD .nothing

namespace Definition

def keyNames : Definition → List String
  | primaryKey names => names
  | _ => []

def foreign : Definition → List ForeignKey
  | foreignKeys keys => keys
  | _ => []

def column? : Definition → Option Column
  | column found => some found
  | _ => none

end Definition

/-- The columns under a declared primary key, which overrules the marks of the columns. -/
def declareKey (names : List String) (columns : List Column) : List Column :=
  if names.isEmpty then columns
  else columns.map fun column =>
    if names.any (Text.sameFold column.name) then column.asPrimaryKey
    else { column with isPrimaryKey := false }

def applyForeignKey (columns : List Column) (key : ForeignKey) : List Column :=
  columns.map fun column =>
    if Text.sameFold column.name key.column then column.asForeignKey key.table key.key else column

def assemble (name : String) (definitions : List Definition) : Except Failure Table :=
  let keyNames := definitions.flatMap Definition.keyNames
  let columns := declareKey keyNames (definitions.filterMap Definition.column?)
  let columns := (definitions.flatMap Definition.foreign).foldl applyForeignKey columns
  Table.checked { name, columns, primaryKeys := primaryKeyOrder columns keyNames }

/-- The table of the statement in front of whose end the tokens stand, the first of them its name;
there is none without a name or a body. -/
def readTable? (dialect : Dialect) (statement : List Char) :
    List Sql.Token → Option (Except Failure Table)
  | [] => none
  | head :: _ =>
    let name := objectName head
    let body := Sql.Brackets.inside {} (statement.drop head.stop)
    if head.isName && name != "" && !(Text.trim body).isEmpty then
      some (assemble name ((Sql.definitions body).map (readDefinition dialect)))
    else none

/-- The table that a statement creates, if it creates one. -/
def statementTable? (dialect : Dialect) (statement : List Char) : Option (Except Failure Table) :=
  let tokens := tokens dialect statement
  if startsWith ["CREATE", "TABLE"] tokens then
    let tokens := tokens.drop 2
    readTable? dialect statement
      (if startsWith ["IF", "NOT", "EXISTS"] tokens then tokens.drop 3 else tokens)
  else none

/-- The tables of a script in a known dialect, in order. -/
def scriptTables (dialect : Dialect) (script : String) : Except Failure (List Table) :=
  ((Sql.statements (Sql.stripComments script.toList)).filterMap (statementTable? dialect)).mapM id

/-- The tables of a script; its dialect is detected unless it is named. -/
def parse (script : String) (dialect : Option String) : Except Failure (List Table) := do
  scriptTables (← dialectFor script dialect) script

/-- The snapshot of a script, which carries its dialect. -/
def parseSnapshot (script : String) (dialect : Option String) : Except Failure Snapshot := do
  let dialect ← dialectFor script dialect
  return { tables := ← scriptTables dialect script, driver := dialect.name }

end RelSchema.Ddl
