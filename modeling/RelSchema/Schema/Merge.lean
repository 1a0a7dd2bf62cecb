import RelSchema.Keyed
import RelSchema.Schema.Table

/-!
Merging tables known from models with tables known from a catalog. The models decide on structure,
and the catalog fills what they leave open.
-/
namespace RelSchema

/-- What becomes of columns that only the catalog knows. -/
inductive MergePolicy
  /-- They are dropped. -/
  | model
  /-- They follow the columns of the model. -/
  | union
  deriving DecidableEq, Repr

namespace MergePolicy

def ofName : String → Except Failure MergePolicy
  | "model" => .ok model
  | "union" => .ok union
  | name => .error (.unknownPolicy name)

end MergePolicy

namespace Column

/-- The column of a model with its type and foreign key filled from the catalog where it has
none. -/
def fillFrom (column known : Column) : Column :=
  let typed := if column.type == "" then { column with type := known.type } else column
  if !typed.isForeignKey && known.isForeignKey then
    { typed with
      isForeignKey := true
      foreignTable := known.foreignTable
      foreignKey := known.foreignKey }
  else typed

end Column

namespace Table

/-- Merges a table of the models with the same one of the catalog. Columns match by exact name, and
of several in the catalog the last one counts. -/
def merge (policy : MergePolicy) (model catalog : Table) : Table :=
  let filled := model.columns.map fun column =>
    match catalog.columns.reverse.find? (·.name == column.name) with
    | some known => column.fillFrom known
    | none => column
  let added := match policy with
    | .model => []
    | .union => catalog.columns.filter fun column => !model.columnNames.contains column.name
  { name := model.name, columns := filled ++ added, relations := model.relations,
    primaryKeys := model.primaryKeys, rowCount := catalog.rowCount }

/-- The tables by name up to case; of several with one name the last one counts, in the place of the
first. -/
def byName (tables : List Table) : Keyed Table :=
  .ofList (tables.map fun table => (Text.fold table.name, table))

/-- Merges two sets of tables: those of the catalog in their order, then those that only the models
know. -/
def mergeAll (policy : MergePolicy) (models catalog : List Table) : List Table :=
  let models := byName models
  let merged := catalog.map fun table =>
    match models.get? (Text.fold table.name) with
    | some model => merge policy model table
    | none => table
  let known := catalog.map fun table => Text.fold table.name
  merged ++ (models.filter fun (key, _) => !known.contains key).map (·.2)

/-- The table with its row count, if there is one under its exact name. -/
def withRowCount (counts : Keyed Int) (table : Table) : Table :=
  match counts.get? table.name with
  | some count => { table with rowCount := count }
  | none => table

end Table

/-- The snapshot of merged tables with the row counts that are known. -/
def Snapshot.build (policy : MergePolicy) (models catalog : List Table) (driver : String)
    (counts : Keyed Int) (database : String) : Snapshot :=
  { tables := (Table.mergeAll policy models catalog).map (Table.withRowCount counts)
    driver
    database }

end RelSchema
