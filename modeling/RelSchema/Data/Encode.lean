import RelSchema.Data.Basic
import RelSchema.Schema.Table

/-!
Columns, relations, tables and snapshots as data.
-/
namespace RelSchema

namespace Data

def ofTexts (texts : List String) : Data :=
  list (texts.map text)

def ofOptionalText : Option String → Data
  | some s => text s
  | none => null

def ofFields (fields : List (String × Data)) : Data :=
  record (fields.map fun (name, value) => (text name, value))

end Data

open Data

def Column.toData (column : Column) : Data :=
  ofFields [("name", text column.name), ("type", text column.type),
    ("type_hint", ofOptionalText column.declaredType),
    ("is_primary_key", bool column.isPrimaryKey), ("is_nullable", bool column.isNullable),
    ("is_foreign_key", bool column.isForeignKey),
    ("foreign_table", ofOptionalText column.foreignTable),
    ("foreign_key", ofOptionalText column.foreignKey),
    ("default", ofOptionalText column.defaultValue)]

def Relation.toData (relation : Relation) : Data :=
  ofFields [("name", text relation.name), ("kind", text relation.kind.name),
    ("table", text relation.table), ("foreign_key", text relation.foreignKey),
    ("reference_key", text relation.referenceKey),
    ("join_table", ofOptionalText relation.joinTable)]

def Table.toData (table : Table) : Data :=
  ofFields [("name", text table.name), ("columns", list (table.columns.map Column.toData)),
    ("relations", list (table.relations.map Relation.toData)),
    ("primary_keys", ofTexts table.primaryKeys), ("row_count", int table.rowCount)]

def Snapshot.toData (snapshot : Snapshot) : Data :=
  ofFields [("tables", list (snapshot.tables.map Table.toData)),
    ("driver", text snapshot.driver), ("database", text snapshot.database)]

end RelSchema
