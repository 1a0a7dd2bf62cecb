import RelSchema.Data.Checked
import RelSchema.Schema.Table

/-!
Reading columns, relations, tables and snapshots from data.
-/
namespace RelSchema

open Data

def Column.ofData : Data → Checked Column :=
  asRecord "ColumnInfo" fun members => Checked.ensure Column.problem? <|
    Column.mk <$> required members "name" asText
      <*> withDefault members "type" asText ""
      <*> withDefault members "type_hint" asOptionalText none
      <*> withDefault members "is_primary_key" asBool false
      <*> withDefault members "is_nullable" asBool true
      <*> withDefault members "is_foreign_key" asBool false
      <*> withDefault members "foreign_table" asOptionalText none
      <*> withDefault members "foreign_key" asOptionalText none
      <*> withDefault members "default" asOptionalText none

def RelationKind.ofData : Data → Checked RelationKind
  | .text name => match ofName? name with
    | some kind => .valid kind
    | none => .problem .notRelationKind
  | _ => .problem .notRelationKind

def Relation.ofData : Data → Checked Relation :=
  asRecord "RelationInfo" fun members => Checked.ensure Relation.problem? <|
    Relation.mk <$> required members "name" asText
      <*> required members "kind" RelationKind.ofData
      <*> required members "table" asText
      <*> withDefault members "foreign_key" asText ""
      <*> withDefault members "reference_key" asText ""
      <*> withDefault members "join_table" asOptionalText none

def Table.ofData : Data → Checked Table :=
  asRecord "TableInfo" fun members =>
    Table.mk <$> required members "name" asText
      <*> withDefault members "columns" (asTuple Column.ofData) []
      <*> withDefault members "relations" (asTuple Relation.ofData) []
      <*> withDefault members "primary_keys" (asTuple asText) []
      <*> withDefault members "row_count" asInt 0

def Snapshot.ofData : Data → Checked Snapshot :=
  asRecord "SchemaInfo" fun members =>
    Snapshot.mk <$> withDefault members "tables" (asTuple Table.ofData) []
      <*> withDefault members "driver" asText ""
      <*> withDefault members "database" asText ""

end RelSchema
