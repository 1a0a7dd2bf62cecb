import RelSchema.Proofs.Catalog.Inspection
import RelSchema.Proofs.Catalog.Logical

/-!
# Agreement of the catalogs

What is described of a logical table does not depend on the catalog that tells it, up to one choice:
a column with several references refers to the target of the first one on PostgreSQL and to that of
the last one on SQLite and MySQL. So the descriptions are the same exactly if the first and the last
reference of each column have the same target.
-/

namespace RelSchema

open Ddl (DistinctFolds)

theorem Dialect.ofName_name (dialect : Dialect) : ofName (some dialect.name) = .ok dialect := by
  cases dialect <;> rfl

/-- The description of the column in a table with the key, if the reference counts for it. -/
def LogicalColumn.described (key : List String) (reference? : Option LogicalReference)
    (column : LogicalColumn) : Column where
  name := column.name
  type := column.type.getD ""
  isPrimaryKey := key.contains column.name
  isNullable := column.isNullable && !key.contains column.name
  isForeignKey := reference?.isSome
  foreignTable := reference?.map (·.table)
  foreignKey := reference?.bind (·.key)
  defaultValue := defaultText? column.defaultValue

/-- The description of the table, given the reference that counts for each column. -/
def LogicalTable.described (table : LogicalTable) (name : String)
    (reference? : String → Option LogicalReference) : Table where
  name
  columns := table.columns.map fun column => column.described table.key (reference? column.name)
  primaryKeys := table.key

namespace LogicalColumn

variable {key : List String}

theorem name_row (dialect : Dialect) (column : LogicalColumn) :
    (column.row dialect key).name = column.name := by
  cases dialect <;> rfl

theorem isNullable_row (dialect : Dialect) (column : LogicalColumn) :
    (column.row dialect key).isNullable = column.isNullable := by
  obtain ⟨name, type, isNullable, defaultValue⟩ := column
  cases dialect <;> cases isNullable <;> rfl

theorem column_row {targets : Keyed Target} {dialect : Dialect} {column : LogicalColumn}
    {reference? : Option LogicalReference}
    (htarget : targets.get? column.name = reference?.map (·.target)) :
    (column.row dialect key).column key targets = column.described key reference? := by
  have htype : (column.row dialect key).type = column.type := by cases dialect <;> rfl
  have hdefault : (column.row dialect key).defaultValue = column.defaultValue := by
    cases dialect <;> rfl
  unfold ColumnRow.column described
  rw [name_row, isNullable_row, htype, hdefault, htarget]
  cases key.contains column.name <;> cases reference? <;>
    simp [Column.asPrimaryKey, Column.asForeignKey, LogicalReference.target]

theorem described_eq_iff {column : LogicalColumn} {first last : Option LogicalReference} :
    column.described key first = column.described key last ↔
      first.map (·.target) = last.map (·.target) := by
  cases first <;> cases last <;> simp [described, LogicalReference.target]

end LogicalColumn

/-- A declared key that the marks of the columns agree with is in order. -/
theorem primaryKeyOrder_of_marks {columns : List Column} {key : List String}
    (hdistinct : DistinctFolds (columns.map (·.name))) (hnodup : key.Nodup)
    (hsubset : key ⊆ columns.map (·.name))
    (hmarks : ∀ column ∈ columns, column.isPrimaryKey = key.contains column.name) :
    primaryKeyOrder columns key = key := by
  unfold primaryKeyOrder
  cases key with
  | nil =>
      have hnone : columns.filter (·.isPrimaryKey) = [] :=
        List.filter_eq_nil_iff.mpr fun column hcolumn => by rw [hmarks column hcolumn]; simp
      rw [hnone]
      rfl
  | cons name rest =>
      have hspelled : (name :: rest).map (columnSpelling columns) = name :: rest := by
        refine (List.map_congr_left fun key hkey => ?_).trans (List.map_id _)
        exact Ddl.columnSpelling_eq hdistinct (hsubset hkey)
      rw [hspelled, Ddl.distinct_eq_self hnodup]
      rfl

namespace LogicalTable

variable {table : LogicalTable} {dialect : Dialect} {columns : List ColumnRow} {keys : List KeyRow}

theorem IsToldBy.ofRows_eq (h : table.IsToldBy dialect columns keys) (name : String) :
    Table.ofRows dialect name columns keys
      = .ok (table.described name (table.reference? dialect)) := by
  have hcolumns : columns.map (ColumnRow.column table.key (KeyRow.targets dialect keys))
      = (table.described name (table.reference? dialect)).columns := by
    rw [h.columns_eq, List.map_map]
    exact List.map_congr_left fun column _ => LogicalColumn.column_row (h.get?_targets column.name)
  have hnames : (table.described name (table.reference? dialect)).columns.map (·.name)
      = table.columns.map (·.name) := List.map_map
  have hkey : primaryKeyOrder (table.described name (table.reference? dialect)).columns table.key
      = table.key := by
    refine primaryKeyOrder_of_marks (by rw [hnames]; exact table.distinct) table.key_nodup
      (by rw [hnames]; exact table.key_subset) ?_
    exact List.forall_mem_map.mpr fun column _ => rfl
  rw [ofRows_eq_ok_iff, KeyRow.namesTargets_iff]
  refine ⟨?_, ?_⟩
  · intro row _ target htarget
    rw [h.get?_targets, Option.mem_def, Option.map_eq_some_iff] at htarget
    obtain ⟨reference, -, rfl⟩ := htarget
    exact reference.table_ne
  · dsimp only
    rw [h.primaryKey_eq, hcolumns, hkey]
    rfl

/-- The catalog of the inspection, which can read the table, tells it under the name. -/
structure IsIn (table : LogicalTable) (inspection : Inspection) (dialect : Dialect)
    (name : String) : Prop where
  dialect_eq : inspection.dialect = .ok dialect
  isReadable : inspection.isReadable name = true
  isToldBy : table.IsToldBy dialect (inspection.catalog.columnRows name)
    (inspection.catalog.keyRows name)

def inspection (table : LogicalTable) (name : String) (dialect : Dialect) : Inspection where
  catalog := {
    dialectName := some dialect.name
    tables := [name]
    columns := [(name, table.columns.map (·.row dialect table.key))]
    keys := [(name, table.keyRows dialect)] }
  url := ⟨dialect.name, none, none, none, none, none⟩
  excluded := []

theorem isIn_inspection (table : LogicalTable) (name : String) (dialect : Dialect) :
    table.IsIn (table.inspection name dialect) dialect name where
  dialect_eq := Dialect.ofName_name dialect
  isReadable := rfl
  isToldBy := by
    have hcolumns : (table.inspection name dialect).catalog.columnRows name
        = table.columns.map (·.row dialect table.key) := by
      rw [Catalog.columnRows, inspection, Keyed.get?_cons, if_pos (beq_self_eq_true name)]
      rfl
    have hkeys : (table.inspection name dialect).catalog.keyRows name = table.keyRows dialect := by
      rw [Catalog.keyRows, inspection, Keyed.get?_cons, if_pos (beq_self_eq_true name)]
      rfl
    rw [hcolumns, hkeys]
    exact table.isToldBy_keyRows dialect

theorem IsIn.describe_eq {inspection : Inspection} {name : String}
    (h : table.IsIn inspection dialect name) :
    inspection.describe name = .ok (table.described name (table.reference? dialect)) := by
  rw [Inspection.describe_of_isReadable h.dialect_eq h.isReadable, h.isToldBy.ofRows_eq]

theorem described_eq_iff {name : String} {first last : String → Option LogicalReference} :
    table.described name first = table.described name last ↔ ∀ column ∈ table.columns,
      (first column.name).map (·.target) = (last column.name).map (·.target) := by
  unfold described
  rw [Table.mk.injEq, List.map_inj_left]
  simp only [LogicalColumn.described_eq_iff, true_and, and_true]

/-- All three catalogs describe the table with its key in order, SQLite and MySQL in the same way.
PostgreSQL describes it in this way too exactly if the first and the last reference of each column
have the same target. -/
theorem describe_agrees {name : String} {sqlite postgres mysql : Inspection}
    (hsqlite : table.IsIn sqlite .sqlite name) (hpostgres : table.IsIn postgres .postgres name)
    (hmysql : table.IsIn mysql .mysql name) :
    ∃ found other, sqlite.describe name = .ok found ∧ mysql.describe name = .ok found ∧
      postgres.describe name = .ok other ∧
      found = table.described name table.lastReference? ∧
      other = table.described name table.firstReference? ∧
      found.primaryKeys = table.key ∧ other.primaryKeys = table.key ∧
      (other = found ↔ ∀ column ∈ table.columns,
        (table.firstReference? column.name).map (·.target)
          = (table.lastReference? column.name).map (·.target)) :=
  ⟨_, _, hsqlite.describe_eq, hmysql.describe_eq, hpostgres.describe_eq, rfl, rfl, rfl, rfl,
    described_eq_iff⟩

/-- The key is not in the order of the columns, and one column refers to three targets, of which the
first and the last one are the same. -/
def bookings : LogicalTable where
  columns := [⟨"room", some "int", false, .null⟩, ⟨"day", some "date", false, .null⟩,
    ⟨"user_id", some "int", true, .int 0⟩]
  key := ["day", "room"]
  references := [⟨"user_id", "users", some "id", by decide⟩,
    ⟨"room", "rooms", some "id", by decide⟩, ⟨"user_id", "people", some "pid", by decide⟩,
    ⟨"user_id", "users", some "id", by decide⟩]
  distinct := by
    unfold DistinctFolds
    decide
  key_nodup := by decide
  key_subset := by decide

theorem describe_agrees_bookings :
    (∀ dialect, bookings.IsIn (bookings.inspection "bookings" dialect) dialect "bookings") ∧
      ∃ found, (∀ dialect, (bookings.inspection "bookings" dialect).describe "bookings"
        = .ok found) ∧ found.primaryKeys = ["day", "room"] := by
  have hin := bookings.isIn_inspection "bookings"
  obtain ⟨found, other, hsqlite, hmysql, hpostgres, -, -, hkey, -, hsame⟩ :=
    describe_agrees (hin .sqlite) (hin .postgres) (hin .mysql)
  obtain rfl : other = found := hsame.mpr (by decide)
  refine ⟨hin, other, fun dialect => ?_, hkey⟩
  cases dialect with
  | sqlite => exact hsqlite
  | postgres => exact hpostgres
  | mysql => exact hmysql

/-- One column refers to two targets. -/
def orders : LogicalTable where
  columns := [⟨"user_id", some "int", true, .null⟩]
  key := []
  references := [⟨"user_id", "users", some "id", by decide⟩,
    ⟨"user_id", "people", some "pid", by decide⟩]
  distinct := by
    unfold DistinctFolds
    decide
  key_nodup := by decide
  key_subset := by decide

/-- PostgreSQL describes the column of the orders as a reference to the users, and the others
describe it as one to the people. -/
theorem describe_differs_orders :
    ¬ ∀ (table : LogicalTable) (name : String), ∃ found,
      (∀ dialect, (table.inspection name dialect).describe name = .ok found) ∧
        found.primaryKeys = table.key := by
  intro hagree
  obtain ⟨found, hfound, -⟩ := hagree orders "orders"
  have hpostgres := (orders.isIn_inspection "orders" .postgres).describe_eq
  have hmysql := (orders.isIn_inspection "orders" .mysql).describe_eq
  rw [hfound .postgres] at hpostgres
  rw [hfound .mysql] at hmysql
  have hsame := (Except.ok.inj hpostgres).symm.trans (Except.ok.inj hmysql)
  exact absurd hsame (by decide)

end LogicalTable

end RelSchema
