import RelSchema.Models.Declaration
import RelSchema.Naming.Quote
import RelSchema.Schema.Table

/-!
Model sources for tables.
-/
namespace RelSchema.Models

/-- The type of the field for a column: the declared one, or else one that holds its values. -/
def fieldType (column : Column) : String :=
  match column.declaredType with
  | none | some "" => declaredType column.type column.isNullable
  | some type => type

def structName (tableName : String) : String :=
  Naming.toPascalCase (Naming.singularize tableName)

/-- A value as it stands in an option: in single quotes if it could end the option or opens with
such a quote, and with backslashes in front of the characters that could end the tag. -/
def renderValue (value : String) : List Char :=
  let s := value.toList
  let s := if s.contains ';' || s.head? == some '\'' then Naming.enclosed '\'' s else s
  s.flatMap fun c => if c == '\\' || c == '"' then ['\\', c] else [c]

def columnOptions (column : Column) : List String :=
  (if column.isPrimaryKey then ["primaryKey"] else []) ++
    ["column:" ++ column.name] ++
    (if SqlType.size column.type == "" then [] else ["size:" ++ SqlType.size column.type]) ++
    (if column.isNullable || column.isPrimaryKey then [] else ["not null"]) ++
    match column.defaultValue with
    | none | some "" => []
    | some value => ["default:" ++ .ofList (renderValue value)]

def columnTag (column : Column) : String :=
  "gorm:\"" ++ Text.joinWith ";" (columnOptions column) ++ "\""

def renderColumn (column : Column) : String :=
  "\t" ++ Naming.toPascalCase column.name ++ " " ++ fieldType column ++ " \x60" ++
    columnTag column ++ " json:\"" ++ column.name ++ "\"\x60\n"

def relationType (relation : Relation) : String :=
  match relation.kind with
  | .hasMany | .manyToMany => "[]" ++ structName relation.table
  | .hasOne | .belongsTo => structName relation.table

/-- The tag of the field for a relation, with a space behind it; it may be empty. -/
def relationTag (relation : Relation) : String :=
  if relation.kind == .manyToMany then
    "gorm:\"many2many:" ++ relation.joinTable.getD "" ++ "\" "
  else if relation.foreignKey == "" then ""
  else "gorm:\"foreignKey:" ++ Naming.toPascalCase relation.foreignKey ++ "\" "

def renderRelation (relation : Relation) : String :=
  "\t" ++ Naming.toPascalCase relation.name ++ " " ++ relationType relation ++ " \x60" ++
    relationTag relation ++ "json:\"" ++ Naming.toSnakeCase relation.name ++ ",omitempty\"\x60\n"

def renderTable (table : Table) : String :=
  "type " ++ structName table.name ++ " struct \x7b\n" ++
    String.join (table.columns.map renderColumn ++ table.relations.map renderRelation) ++ "\x7d\n"

/-- The qualified types that need a package, with the path of that package. -/
def packages : List (String × String) :=
  [("json.RawMessage", "encoding/json"), ("time.Time", "time")]

/-- The packages that the fields of the tables need. -/
def imports (tables : List Table) : List String :=
  let types := (tables.flatMap (·.columns)).map fun column => (fieldType column).toList
  (packages.filter fun (type, _) => types.any (Text.occursIn type.toList)).map (·.2)

/-- The import block, with an empty line behind it; there is none without imports. -/
def renderImports (paths : List String) : String :=
  if paths.isEmpty then ""
  else "import (\n" ++ String.join (paths.map fun path => "\t\"" ++ path ++ "\"\n") ++ ")\n\n"

def render (tables : List Table) (package : String) : String :=
  "package " ++ package ++ "\n\n" ++ renderImports (imports tables) ++
    Text.joinWith "\n" (tables.map renderTable)

end RelSchema.Models
