import RelSchema.Proofs.Ddl.Coherent
import RelSchema.Proofs.Ddl.Created

/-!
# Assembled tables

The table of a creation has its columns in order. A declared key changes their marks, and then
foreign keys change what they refer to; everything else is as their definitions have it.
-/

namespace RelSchema.Ddl

/-- A column under a declared key, which overrules its mark. -/
def underDeclared (names : List String) (column : Column) : Column :=
  if names.isEmpty then column
  else if names.any (Text.sameFold column.name) then column.asPrimaryKey
  else { column with isPrimaryKey := false }

theorem declareKey_eq_map (names : List String) (columns : List Column) :
    declareKey names columns = columns.map (underDeclared names) := by
  cases names with
  | nil => exact (List.map_id columns).symm
  | cons name names => rfl

theorem name_underDeclared (names : List String) (column : Column) :
    (underDeclared names column).name = column.name := by
  rw [underDeclared]
  split_ifs <;> rfl

theorem withoutReference_underForeignKey (column : Column) (key : ForeignKey) :
    (underForeignKey column key).withoutReference = column.withoutReference := by
  rw [underForeignKey]
  split_ifs <;> rfl

theorem withoutReference_foldl_underForeignKey (keys : List ForeignKey) (column : Column) :
    (keys.foldl underForeignKey column).withoutReference = column.withoutReference := by
  induction keys generalizing column with
  | nil => rfl
  | cons key keys ih => rw [List.foldl_cons, ih, withoutReference_underForeignKey]

namespace Creation

def keyNames (creation : Creation) : List String :=
  creation.definitions.flatMap Definition.keyNames

def settled (creation : Creation) (column : Column) : Column :=
  creation.foreignKeys.foldl underForeignKey (underDeclared creation.keyNames column)

def table (creation : Creation) : Table where
  name := creation.name
  columns := creation.columns.map creation.settled
  primaryKeys :=
    primaryKeyOrder (creation.columns.map (underDeclared creation.keyNames)) creation.keyNames

variable {creation : Creation}

theorem withoutReference_settled (creation : Creation) (column : Column) :
    (creation.settled column).withoutReference
      = (underDeclared creation.keyNames column).withoutReference :=
  withoutReference_foldl_underForeignKey _ _

theorem name_settled (creation : Creation) (column : Column) :
    (creation.settled column).name = column.name := by
  rw [settled, name_foldl_underForeignKey, name_underDeclared]

theorem foreignTable_settled (creation : Creation) (column : Column) :
    (creation.settled column).foreignTable = targetTable? creation.foreignKeys column := by
  have htable : (underDeclared creation.keyNames column).foreignTable = column.foreignTable := by
    rw [underDeclared]
    split_ifs <;> rfl
  rw [settled, foreignTable_foldl_underForeignKey, targetTable?, targetTable?, name_underDeclared,
    htable]

theorem settled_eq (creation : Creation) (column : Column) :
    (creation.settled column).name = column.name ∧ (creation.settled column).type = column.type ∧
      (creation.settled column).defaultValue = column.defaultValue := by
  obtain ⟨hname, htype, -, -, -, hdefault⟩ :=
    Column.withoutReference_eq_iff.mp (withoutReference_settled creation column)
  rw [hname, htype, hdefault, underDeclared]
  split_ifs <;> exact ⟨rfl, rfl, rfl⟩

/-- A declared key marks the columns that it names up to case, and no others. -/
theorem marks_settled (hdeclared : creation.keyNames ≠ []) (column : Column) :
    (creation.settled column).isPrimaryKey = creation.keyNames.any (Text.sameFold column.name) ∧
      (creation.keyNames.any (Text.sameFold column.name) = true →
        (creation.settled column).isNullable = false) := by
  obtain ⟨-, -, -, hmark, hnullable, -⟩ :=
    Column.withoutReference_eq_iff.mp (withoutReference_settled creation column)
  have hempty : ¬ creation.keyNames.isEmpty = true := by simpa using hdeclared
  rw [hmark, hnullable, underDeclared, if_neg hempty]
  cases hlisted : creation.keyNames.any (Text.sameFold column.name) with
  | true => exact ⟨rfl, fun _ => rfl⟩
  | false => exact ⟨rfl, fun h => nomatch h⟩

theorem assemble_eq_checked (creation : Creation) :
    assemble creation.name creation.definitions = creation.table.checked := by
  have hcolumns : creation.foreignKeys.foldl applyForeignKey
      (declareKey creation.keyNames creation.columns) = creation.columns.map creation.settled := by
    rw [declareKey_eq_map, foldl_applyForeignKey, List.map_map]
    rfl
  have hkeys : primaryKeyOrder (creation.columns.map creation.settled) creation.keyNames
      = primaryKeyOrder (creation.columns.map (underDeclared creation.keyNames))
          creation.keyNames := by
    have hmap : creation.columns.map creation.settled
        = (creation.columns.map (underDeclared creation.keyNames)).map fun column =>
            creation.foreignKeys.foldl underForeignKey column := by
      rw [List.map_map]
      rfl
    rw [hmap]
    refine primaryKeyOrder_map (fun column => name_foldl_underForeignKey _ column)
      (fun column => ?_) _ _
    exact (Column.withoutReference_eq_iff.mp
      (withoutReference_foldl_underForeignKey creation.foreignKeys column)).2.2.2.1
  calc assemble creation.name creation.definitions
      = Table.checked {
          name := creation.name
          columns := creation.foreignKeys.foldl applyForeignKey
            (declareKey creation.keyNames creation.columns)
          primaryKeys := primaryKeyOrder (creation.foreignKeys.foldl applyForeignKey
            (declareKey creation.keyNames creation.columns)) creation.keyNames } := rfl
    _ = creation.table.checked := by rw [hcolumns, hkeys]; rfl

/-- Whether each column that refers to a table names it. -/
def Named (creation : Creation) : Prop :=
  ∀ column ∈ creation.columns, targetTable? creation.foreignKeys column ≠ some ""

instance (creation : Creation) : Decidable creation.Named :=
  inferInstanceAs (Decidable (∀ column ∈ creation.columns, _))

/-- The table passes its check exactly if its columns name the tables that they refer to. -/
theorem assemble_eq (hlinked : ∀ column ∈ creation.columns, IsLinked column)
    (hnamed : creation.Named) :
    assemble creation.name creation.definitions = .ok creation.table := by
  obtain ⟨table, htable⟩ := (exists_assemble_eq_ok_iff hlinked).mpr hnamed
  have hchecked := htable
  rw [assemble_eq_checked, Table.checked_eq_ok_iff] at hchecked
  rw [htable, hchecked.1]

end Creation

end RelSchema.Ddl
