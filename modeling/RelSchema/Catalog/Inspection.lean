import RelSchema.Catalog.Table
import RelSchema.Naming.Quote
import RelSchema.Schema.Table
import RelSchema.Url.Basic

/-!
Inspections: reading the schema of a database over an open connection. A table that cannot be read
is passed over, and a table that cannot be counted counts as empty; after such a failure a
transaction under way is rolled back.
-/
namespace RelSchema

/-- What work on a connection comes to, and the number of transactions rolled back during it. -/
structure Outcome (α : Type) where
  result : Except Failure α
  rollbacks : Nat := 0

namespace Outcome

/-- Work that rolls nothing back. -/
def of (result : Except Failure α) : Outcome α := { result }

/-- Work that depends on the result of other work. -/
def bind (outcome : Outcome α) (next : α → Outcome β) : Outcome β :=
  match outcome.result with
  | .ok a => { next a with rollbacks := outcome.rollbacks + (next a).rollbacks }
  | .error failure => { result := .error failure, rollbacks := outcome.rollbacks }

instance : Monad Outcome where
  pure a := { result := .ok a }
  bind := bind

end Outcome

/-- An open connection, and what is looked at over it. -/
structure Inspection where
  catalog : Catalog
  url : Url
  schema : String := "public"
  /-- The tables to pass over. -/
  excluded : List String

namespace Inspection

/-- The tables that are passed over unless others are named. -/
def usualExclusions : List String :=
  ["schema_migrations", "pg_stat_statements", "spatial_ref_sys"]

def dialect (inspection : Inspection) : Except Failure Dialect :=
  Dialect.ofName (some (inspection.catalog.dialectName.getD inspection.url.backend))

/-- The tables of the schema without those to pass over. Only one family of databases knows several
schemas. -/
def tableNames (inspection : Inspection) : Except Failure (List String) := do
  let names :=
    if (← inspection.dialect) == .postgres && inspection.schema != inspection.catalog.schema then []
    else inspection.catalog.tables
  return names.filter (!inspection.excluded.contains ·)

/-- The table of the name; one that the catalog does not know has no columns. -/
def describe (inspection : Inspection) (name : String) : Except Failure Table := do
  let dialect ← inspection.dialect
  let catalog := inspection.catalog
  if catalog.failing.contains name then throw (.database "catalog read failed")
  Table.ofRows dialect name ((catalog.columns.get? name).getD []) ((catalog.keys.get? name).getD [])

/-- The answer in place of a query that has failed. -/
def recover (inspection : Inspection) (answer : α) : Outcome α :=
  { result := .ok answer, rollbacks := if inspection.catalog.isInTransaction then 1 else 0 }

/-- The table of the name in a list, or no table if the catalog cannot be read. -/
def describeIfReadable (inspection : Inspection) (name : String) : Outcome (List Table) :=
  match inspection.describe name with
  | .ok table => .of (.ok [table])
  | .error (.database _) => inspection.recover []
  | .error failure => .of (.error failure)

def describeAll (inspection : Inspection) : List String → Outcome (List Table)
  | [] => pure []
  | name :: names => do
    let table ← inspection.describeIfReadable name
    return table ++ (← inspection.describeAll names)

def tables (inspection : Inspection) : Outcome (List Table) := do
  inspection.describeAll (← Outcome.of inspection.tableNames)

/-- The number of rows of a table. -/
def count (inspection : Inspection) (name : String) : Outcome Int := do
  let dialect ← Outcome.of inspection.dialect
  match inspection.catalog.counts.get? (Naming.quoteIdentifier dialect name) with
  | some count => return count.getD 0
  | none => inspection.recover 0

def countAll (inspection : Inspection) : List String → Outcome (List (String × Int))
  | [] => pure []
  | name :: names => do
    let count ← inspection.count name
    return (name, count) :: (← inspection.countAll names)

/-- The numbers of rows of the named tables, or of all. -/
def counts (inspection : Inspection) (names? : Option (List String)) : Outcome (Keyed Int) := do
  let names ← match names? with
    | some names => pure names
    | none => .of inspection.tableNames
  return .ofList (← inspection.countAll names)

def snapshot (inspection : Inspection) : Outcome Snapshot := do
  let tables ← inspection.tables
  let counts ← inspection.counts (some (tables.map (·.name)))
  let dialect ← Outcome.of inspection.dialect
  return {
    tables := tables.map fun table => { table with rowCount := (counts.get? table.name).getD 0 }
    driver := dialect.name
    database := inspection.url.database.getD "" }

/-- The snapshot, or the report with which listing the tables fails. -/
def snapshotUnless (inspection : Inspection) (unlisted : Option String) : Outcome Snapshot :=
  match unlisted with
  | none => inspection.snapshot
  | some report => do
    let _ ← Outcome.of inspection.dialect
    .of (.error (.database report))

inductive Query
  | dialect
  | tableNames
  | describe (name : String)
  | tables
  | count (name : String)
  | counts (names? : Option (List String))
  | snapshot

inductive Answer
  | dialect (dialect : Dialect)
  | names (names : List String)
  | table (table : Table)
  | tables (tables : List Table)
  | count (count : Int)
  | counts (counts : Keyed Int)
  | snapshot (snapshot : Snapshot)

def answer (inspection : Inspection) : Query → Outcome Answer
  | .dialect => .of (inspection.dialect.map .dialect)
  | .tableNames => .of (inspection.tableNames.map .names)
  | .describe name => .of ((inspection.describe name).map .table)
  | .tables => return .tables (← inspection.tables)
  | .count name => return .count (← inspection.count name)
  | .counts names? => return .counts (← inspection.counts names?)
  | .snapshot => return .snapshot (← inspection.snapshot)

/-- The answers to queries, each with the number of rollbacks from the first query on. -/
def answers (inspection : Inspection) (before : Nat) : List Query → List (Outcome Answer)
  | [] => []
  | query :: queries =>
    let outcome := inspection.answer query
    let total := before + outcome.rollbacks
    { outcome with rollbacks := total } :: inspection.answers total queries

end Inspection

end RelSchema
