import RelSchema.Proofs.Keyed
import RelSchema.Proofs.Schema.Table
import RelSchema.Schema.Merge

/-!
# Columns that refer to tables

A column is consistent if it is marked as foreign exactly when it names the table that it refers to.
The check of a table keeps the rule, but marks and merges are made without a check.
-/

namespace RelSchema

theorem isGiven_iff {text : Option String} : isGiven text = true ↔ ∃ s, text = some s ∧ s ≠ "" := by
  cases text with
  | none => simp [isGiven]
  | some s => simp [isGiven]

def Column.withoutReference (column : Column) : Column :=
  { column with isForeignKey := false, foreignTable := none, foreignKey := none }

def Table.withoutReferences (table : Table) : Table :=
  { table with columns := table.columns.map Column.withoutReference }

theorem Column.withoutReference_eq_iff {column other : Column} :
    column.withoutReference = other.withoutReference ↔
      column.name = other.name ∧ column.type = other.type ∧
        column.declaredType = other.declaredType ∧ column.isPrimaryKey = other.isPrimaryKey ∧
        column.isNullable = other.isNullable ∧ column.defaultValue = other.defaultValue := by
  simp [withoutReference]

theorem Column.withoutReference_asForeignKey (column : Column) (table : String)
    (key : Option String) :
    (column.asForeignKey table key).withoutReference = column.withoutReference := rfl

namespace Column

variable {column known : Column}

theorem consistent_iff :
    column.Consistent ↔
      (column.isForeignKey = true ↔ ∃ table, column.foreignTable = some table ∧ table ≠ "") := by
  unfold Consistent
  rw [← isGiven_iff, Bool.eq_iff_iff]

theorem consistent_asForeignKey {table : String} (htable : table ≠ "") (key : Option String) :
    (column.asForeignKey table key).Consistent := by
  unfold Consistent asForeignKey
  exact (isGiven_iff.mpr ⟨table, rfl, htable⟩).symm

/-- A reference is filled from a consistent column together with its mark. -/
theorem Consistent.fillFrom (hcolumn : column.Consistent) (hknown : known.Consistent) :
    (column.fillFrom known).Consistent := by
  have htyped : (if column.type == "" then { column with type := known.type }
      else column).Consistent := by
    split_ifs
    · exact hcolumn
    · exact hcolumn
  unfold Column.fillFrom
  generalize (if column.type == "" then { column with type := known.type } else column) = typed
    at htyped
  by_cases hfill : (!typed.isForeignKey && known.isForeignKey) = true
  · obtain ⟨-, hforeign⟩ := Bool.and_eq_true_iff.mp hfill
    rw [if_pos hfill]
    exact hforeign.symm.trans hknown
  · rw [if_neg hfill]
    exact htyped

end Column

namespace Table

/-- Each column of the table is marked as foreign exactly if it names a table. -/
def Consistent (table : Table) : Prop :=
  ∀ column ∈ table.columns, column.Consistent

theorem consistent_of_checked {table found : Table} (h : table.checked = .ok found) :
    found.Consistent := by
  obtain ⟨rfl, hcolumns, -⟩ := checked_eq_ok_iff.mp h
  exact hcolumns

/-- The columns of a merge are those of the model, filled, and perhaps those of the catalog. -/
theorem Consistent.merge (policy : MergePolicy) {model catalog : Table} (hmodel : model.Consistent)
    (hcatalog : catalog.Consistent) : (Table.merge policy model catalog).Consistent := by
  intro column hcolumn
  rcases List.mem_append.mp hcolumn with hfilled | hadded
  · obtain ⟨original, horiginal, rfl⟩ := List.mem_map.mp hfilled
    cases hfound : catalog.columns.reverse.find? (·.name == original.name) with
    | none => exact hmodel original horiginal
    | some known =>
        have hknown := List.mem_reverse.mp (List.mem_of_find?_eq_some hfound)
        exact (hmodel original horiginal).fillFrom (hcatalog known hknown)
  · cases policy with
    | model => cases hadded
    | union => exact hcatalog column (List.mem_filter.mp hadded).1

theorem mem_of_mem_byName {tables : List Table} {entry : String × Table}
    (h : entry ∈ byName tables) : entry.2 ∈ tables := by
  obtain ⟨table, htable, rfl⟩ := List.mem_map.mp (Keyed.mem_of_mem_ofList h)
  exact htable

theorem consistent_mergeAll (policy : MergePolicy) {models catalog : List Table}
    (hmodels : ∀ table ∈ models, table.Consistent)
    (hcatalog : ∀ table ∈ catalog, table.Consistent) :
    ∀ table ∈ mergeAll policy models catalog, table.Consistent := by
  intro table htable
  rcases List.mem_append.mp htable with hmerged | hrest
  · obtain ⟨known, hknown, rfl⟩ := List.mem_map.mp hmerged
    cases hfound : (byName models).get? (Text.fold known.name) with
    | none => exact hcatalog known hknown
    | some model =>
        exact (hmodels model (mem_of_mem_byName (Keyed.mem_of_get? hfound))).merge policy (hcatalog known hknown)
  · obtain ⟨entry, hentry, rfl⟩ := List.mem_map.mp hrest
    exact hmodels _ (mem_of_mem_byName (List.mem_filter.mp hentry).1)

end Table

end RelSchema
