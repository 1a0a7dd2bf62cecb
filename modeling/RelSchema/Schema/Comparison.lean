import RelSchema.Schema.Merge

/-!
Comparison of a schema with the one that is expected.
-/
namespace RelSchema

structure MissingColumn where
  table : String
  column : String
  message : String := ""
  deriving DecidableEq, Repr

/-- The result of a comparison. Extra tables are no faults. -/
structure Comparison where
  valid : Bool
  missingTables : List String := []
  missingColumns : List MissingColumn := []
  extraTables : List String := []
  deriving DecidableEq, Repr

namespace Comparison

def errorCount (comparison : Comparison) : Nat :=
  comparison.missingTables.length + comparison.missingColumns.length

/-- The lines of a part of the report: none if nothing is listed. -/
def listing (title : String) (entries : List String) : List String :=
  if entries.isEmpty then []
  else ("\n  " ++ title ++ " (" ++ toString entries.length ++ "):") ::
    entries.map fun entry => "    - " ++ entry

def report (comparison : Comparison) : String :=
  if comparison.valid then "Schema valid"
  else
    Text.joinWith "\n" (["Schema validation failed:"] ++
      listing "Missing tables" comparison.missingTables ++
      listing "Missing columns"
        (comparison.missingColumns.map fun missing => missing.table ++ "." ++ missing.column) ++
      if comparison.extraTables.isEmpty then []
      else ["\n  Extra tables (warning): " ++ Text.joinWith ", " comparison.extraTables])

end Comparison

namespace Snapshot

/-- The names of the tables that have no counterpart, in order. -/
def unmatched (tables others : Keyed Table) : List String :=
  ((tables.filter fun (key, _) => !others.has key).map (·.2.name)).mergeSort

/-- The columns that the first expected table of a name has and the actual table lacks. -/
def missingColumns (expected : Snapshot) (name : String) (actual : Table) : List MissingColumn :=
  let names := (((expected.table? name).map (·.columnNames)).getD []).filter fun column =>
    !actual.columnNames.any (Text.sameFold column)
  names.map fun column =>
    { table := name, column,
      message := "Column '" ++ column ++ "' missing from table '" ++ name ++ "'" }

/-- The expected table and the actual one of a key, if there are both. -/
def matched? (actual expected : Keyed Table) (key : String) : Option (Table × Table) := do
  return (← expected.get? key, ← actual.get? key)

/-- Compares a schema with the expected one; names match up to case. -/
def compare (actual expected : Snapshot) : Comparison :=
  let actualTables := Table.byName actual.tables
  let expectedTables := Table.byName expected.tables
  let missingTables := unmatched expectedTables actualTables
  let missing := (expectedTables.keys.mergeSort.filterMap
    (matched? actualTables expectedTables)).flatMap fun (table, other) =>
      expected.missingColumns table.name other
  { valid := missingTables.isEmpty && missing.isEmpty
    missingTables
    missingColumns := missing
    extraTables := unmatched actualTables expectedTables }

end Snapshot

end RelSchema
