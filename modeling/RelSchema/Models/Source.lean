import RelSchema.Models.Declaration
import RelSchema.Schema.Table

/-!
Tables of model sources.
-/
namespace RelSchema.Models

def columnOf (dialect : Dialect) (field : Field) : Column :=
  let isPrimaryKey := Keyed.has field.options "primarykey" || Keyed.has field.options "primary_key"
  { name := field.columnName
    type := declaredSqlType field.type dialect
    declaredType := some field.type
    isPrimaryKey
    isNullable := !(isPrimaryKey || Keyed.has field.options "not null")
    defaultValue := field.options.given? "default" }

/-- The last word of a type, which names the structure that it refers to. -/
def targetOf? (type : String) : Option String :=
  ((Text.splitWhere (!Text.isWordChar ·) type.toList).filter (!·.isEmpty)).getLast?.map .ofList

def isListType (type : String) : Bool :=
  "[]".toList.isPrefixOf type.toList

/-- The name of the foreign key field that points from a target back to the structure. -/
def backReference (owner : Declaration) (field : Field) : String :=
  Naming.toSnakeCase ((field.options.given? "foreignkey").getD (owner.name ++ "ID"))

/-- The relation for a field that refers to the structure `target`. A list goes through a table in
between if the options name one. Any other field belongs to its target if the structure itself
has the foreign key field. -/
def relationTo (owner : Declaration) (field : Field) (target : String) : Relation :=
  let table := tableNameFor target
  let referenceKey := Naming.toSnakeCase ((field.options.given? "references").getD "ID")
  if isListType field.type then
    match field.options.given? "many2many" with
    | some joinTable =>
      { name := field.name, kind := .manyToMany, table, joinTable := some joinTable,
        foreignKey := Naming.toSnakeCase ((Keyed.get? field.options "foreignkey").getD ""),
        referenceKey }
    | none =>
      { name := field.name, kind := .hasMany, table, foreignKey := backReference owner field,
        referenceKey }
  else
    match owner.columnFor? ((field.options.given? "foreignkey").getD (field.name ++ "ID")) with
    | some column =>
      { name := field.name, kind := .belongsTo, table, foreignKey := column, referenceKey }
    | none =>
      { name := field.name, kind := .hasOne, table, foreignKey := backReference owner field,
        referenceKey }

def relationOf (owner : Declaration) (field : Field) : Except Failure Relation :=
  match targetOf? field.type with
  | some target => .ok (relationTo owner field target)
  | none => .error .namelessRelation

/-- The columns with those of the given name that are not foreign yet marked as foreign. -/
def markForeign (name table key : String) (columns : List Column) : List Column :=
  columns.map fun column =>
    if column.name == name && !column.isForeignKey then column.asForeignKey table (some key)
    else column

/-- The columns with the foreign key of a relation that belongs to its target marked. -/
def markLocal (columns : List Column) (relation : Relation) : List Column :=
  if relation.kind == .belongsTo then
    markForeign relation.foreignKey relation.table relation.referenceKey columns
  else columns

def tableOf (dialect : Dialect) (declaration : Declaration) : Except Failure Table := do
  let relations ← declaration.relations.mapM (relationOf declaration)
  let columns := relations.foldl markLocal (declaration.columns.map (columnOf dialect))
  return {
    name := declaration.tableName, columns, relations, primaryKeys := primaryKeyOrder columns [] }

/-- Changes the last element that satisfies the test. -/
def changeLast (p : α → Bool) (f : α → α) : List α → List α
  | [] => []
  | a :: rest => if p a && !rest.any p then f a :: rest else a :: changeLast p f rest

/-- The tables with the foreign key of a relation marked on its target table, if it lies there. Of
several tables of that name up to case the last one counts. -/
def markTarget (owner : String) (tables : List Table) (relation : Relation) : List Table :=
  if relation.kind == .hasMany || relation.kind == .hasOne then
    changeLast (fun table => Text.sameFold table.name relation.table)
      (fun table => { table with
        columns := markForeign relation.foreignKey owner relation.referenceKey table.columns })
      tables
  else tables

/-- The tables with the foreign keys of all relations marked on their target tables. -/
def markTargets (tables : List Table) : List Table :=
  tables.foldl (fun marked owner => owner.relations.foldl (markTarget owner.name) marked) tables

/-- The tables of a source: one for each structure with a value field. -/
def parse (source : String) (dialect : Dialect) (tag : String) : Except Failure (List Table) := do
  let found := (declarations tag (stripComments source.toList)).filter (!·.columns.isEmpty)
  return markTargets (← found.mapM (tableOf dialect))

end RelSchema.Models
