import RelSchema.Catalog.Basic
import RelSchema.Dialect
import RelSchema.Schema.Table

/-!
Tables as the rows of a catalog describe them. Each family of databases tells keys in its own way,
and the tables read from them are the same.
-/
namespace RelSchema

/-- A table and the column in it that a column refers to. -/
abbrev Target := String × Option String

namespace ColumnRow

/-- The columns with a place in the key, by place; of two rows of one name the later one tells
it. -/
def keyNames (rows : List ColumnRow) : List String :=
  let places : Keyed Int := .ofList <|
    (rows.filter (·.keyPlace != 0)).map fun row => (row.name, row.keyPlace)
  (places.mergeSort fun a b => a.2 ≤ b.2).map (·.1)

/-- The column of a row, given the names in the primary key and the targets of columns. -/
def column (keys : List String) (targets : Keyed Target) (row : ColumnRow) : Column :=
  let plain : Column :=
    { name := row.name
      type := row.type.getD ""
      isNullable := row.isNullable
      defaultValue := defaultText? row.defaultValue }
  let keyed := if keys.contains row.name then plain.asPrimaryKey else plain
  match targets.get? row.name with
  | some (table, key) => keyed.asForeignKey table key
  | none => keyed

end ColumnRow

namespace KeyRow

def entry (row : KeyRow) : String × Target :=
  (row.column, (row.table.getD "", row.target))

def primaryKey (dialect : Dialect) (columns : List ColumnRow) (keys : List KeyRow) :
    List String :=
  match dialect with
  | .sqlite => ColumnRow.keyNames columns
  | .postgres => distinct ((keys.filter (·.label == "PRIMARY KEY")).map (·.column))
  | .mysql => (keys.filter (·.label == "PRIMARY")).map (·.column)

/-- The targets of columns, of which the first one of a column counts. -/
def targets (dialect : Dialect) (keys : List KeyRow) : Keyed Target :=
  match dialect with
  | .sqlite => (keys.map entry).reverse
  | .postgres =>
    (keys.filter fun row => row.label != "PRIMARY KEY" && isGiven row.table).map entry
  | .mysql => ((keys.filter fun row => isGiven row.table).map entry).reverse

end KeyRow

/-- The table that rows describe, if its columns keep their rules. -/
def Table.ofRows (dialect : Dialect) (name : String) (columns : List ColumnRow)
    (keys : List KeyRow) : Except Failure Table :=
  let declared := KeyRow.primaryKey dialect columns keys
  let columns := columns.map (ColumnRow.column declared (KeyRow.targets dialect keys))
  Table.checked { name, columns, primaryKeys := primaryKeyOrder columns declared }

end RelSchema
