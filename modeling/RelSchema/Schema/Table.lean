import RelSchema.Failure
import RelSchema.Schema.Relation
import RelSchema.Text.Case

/-!
Tables and their keys.
-/
namespace RelSchema

/-- A table; its row count is advice and no part of its structure. -/
structure Table where
  name : String
  columns : List Column := []
  relations : List Relation := []
  primaryKeys : List String := []
  rowCount : Int := 0
  deriving DecidableEq, Repr

/-- The elements without those that occur before them in the list. -/
def distinct [BEq α] : List α → List α
  | [] => []
  | a :: rest => a :: (distinct rest).filter (· != a)

/-- The faults of the members of a list, each at its position from `start` on. -/
def memberFaults (problem? : α → Option Problem) (start : Nat) : List α → List Fault
  | [] => []
  | a :: rest =>
    let faults := memberFaults problem? (start + 1) rest
    match problem? a with
    | some problem => ⟨[.index start], problem⟩ :: faults
    | none => faults

namespace Table

def columnNames (table : Table) : List String :=
  table.columns.map (·.name)

/-- The column of exactly this name, or else the first of this name up to case. -/
def column? (table : Table) (name : String) : Option Column :=
  match table.columns.find? (·.name == name) with
  | some column => some column
  | none => table.columns.find? fun column => Text.sameFold column.name name

def hasColumn (table : Table) (name : String) : Bool :=
  (table.column? name).isSome

/-- The names in the primary key; without a declared key those of the columns marked as such. -/
def keyColumns (table : Table) : List String :=
  if table.primaryKeys.isEmpty then (table.columns.filter (·.isPrimaryKey)).map (·.name)
  else table.primaryKeys

/-- The rules that columns and relations break. -/
def faults (table : Table) : List Fault :=
  (memberFaults Column.problem? 0 table.columns).map (·.within (.field "columns")) ++
    (memberFaults Relation.problem? 0 table.relations).map (·.within (.field "relations"))

/-- The table itself, if its columns and relations keep their rules. -/
def checked (table : Table) : Except Failure Table :=
  if table.faults.isEmpty then .ok table else .error (.invalid "TableInfo" table.faults)

end Table

/-- The spelling of a declared key name among the columns: that of the last column of this name up
to case. -/
def columnSpelling (columns : List Column) (name : String) : String :=
  ((columns.reverse.find? fun column => Text.sameFold column.name name).map (·.name)).getD name

/-- The names of a primary key in order: the declared ones, or else the marked columns. -/
def primaryKeyOrder (columns : List Column) (declared : List String) : List String :=
  if declared.isEmpty then (columns.filter (·.isPrimaryKey)).map (·.name)
  else distinct (declared.map (columnSpelling columns))

/-!
Snapshots of a whole schema.
-/

/-- The tables of a database at one time, with the dialect and the database they come from. -/
structure Snapshot where
  tables : List Table := []
  driver : String := ""
  database : String := ""
  deriving DecidableEq, Repr

namespace Snapshot

def tableNames (snapshot : Snapshot) : List String :=
  snapshot.tables.map (·.name)

def table? (snapshot : Snapshot) (name : String) : Option Table :=
  snapshot.tables.find? fun table => Text.sameFold table.name name

def hasTable (snapshot : Snapshot) (name : String) : Bool :=
  (snapshot.table? name).isSome

end Snapshot

end RelSchema
