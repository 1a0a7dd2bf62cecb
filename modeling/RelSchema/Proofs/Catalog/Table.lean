import RelSchema.Catalog.Table
import RelSchema.Proofs.Keyed
import RelSchema.Proofs.Schema.Consistent

/-!
# Tables from rows

The rows of a catalog describe a table exactly if they give a name to every table that a column of
it refers to. Only SQLite can fail to do so: its rows are references throughout and count as they
are, while the rows of the other catalogs that name no table are taken for keys of another kind.
-/

namespace RelSchema

namespace Catalog

def columnRows (catalog : Catalog) (name : String) : List ColumnRow :=
  (catalog.columns.get? name).getD []

def keyRows (catalog : Catalog) (name : String) : List KeyRow :=
  (catalog.keys.get? name).getD []

end Catalog

namespace KeyRow

theorem get?_map_entry (rows : List KeyRow) (name : String) :
    Keyed.get? (rows.map entry) name
      = (rows.find? (·.column == name)).map fun row => (row.table.getD "", row.target) :=
  Keyed.get?_map KeyRow.column _ rows name

theorem getD_ne_empty_iff {text : Option String} : text.getD "" ≠ "" ↔ isGiven text = true := by
  cases text <;> simp [isGiven]

/-- The catalogs that tell apart kinds of keys leave out rows without a table. -/
theorem name_ne_of_targets {dialect : Dialect} (hdialect : dialect ≠ .sqlite) {keys : List KeyRow}
    {name : String} {target : Target} (h : (targets dialect keys).get? name = some target) :
    target.1 ≠ "" := by
  have hgiven : ∃ row : KeyRow, isGiven row.table = true ∧ row.entry = (name, target) := by
    have hmem := Keyed.mem_of_get? h
    cases dialect with
    | sqlite => exact absurd rfl hdialect
    | postgres =>
        obtain ⟨row, hrow, hentry⟩ := List.mem_map.mp hmem
        have hkept := (List.mem_filter.mp hrow).2
        exact ⟨row, (Bool.and_eq_true_iff.mp hkept).2, hentry⟩
    | mysql =>
        obtain ⟨row, hrow, hentry⟩ := List.mem_map.mp (List.mem_reverse.mp hmem)
        exact ⟨row, (List.mem_filter.mp hrow).2, hentry⟩
  obtain ⟨row, htable, hentry⟩ := hgiven
  have htarget : row.table.getD "" = target.1 := congrArg (·.2.1) hentry
  rw [← htarget]
  exact getD_ne_empty_iff.mpr htable

/-- Whether the rows name a table wherever they make a column of the table refer to one. On SQLite
the last row of a column counts. -/
def NamesTargets (dialect : Dialect) (columns : List ColumnRow) (keys : List KeyRow) : Prop :=
  dialect = .sqlite → ∀ column ∈ columns, ∀ key ∈ keys.reverse.find? (·.column == column.name),
    isGiven key.table = true

instance (dialect : Dialect) (columns : List ColumnRow) (keys : List KeyRow) :
    Decidable (NamesTargets dialect columns keys) :=
  inferInstanceAs (Decidable (dialect = .sqlite → ∀ column ∈ columns,
    ∀ key ∈ keys.reverse.find? (·.column == column.name), isGiven key.table = true))

theorem namesTargets_iff {dialect : Dialect} {columns : List ColumnRow} {keys : List KeyRow} :
    NamesTargets dialect columns keys ↔ ∀ column ∈ columns,
      ∀ target ∈ (targets dialect keys).get? column.name, target.1 ≠ "" := by
  by_cases hdialect : dialect = .sqlite
  · subst hdialect
    have htargets : ∀ name, (targets .sqlite keys).get? name
        = (keys.reverse.find? (·.column == name)).map fun row =>
          (row.table.getD "", row.target) := by
      intro name
      rw [targets, ← List.map_reverse, get?_map_entry]
    simp only [NamesTargets, true_implies, htargets, Option.mem_def, Option.map_eq_some_iff,
      forall_exists_index, and_imp, forall_apply_eq_imp_iff₂, getD_ne_empty_iff]
  · refine iff_of_true (fun hsqlite => absurd hsqlite hdialect) ?_
    exact fun column _ target htarget => name_ne_of_targets hdialect htarget

end KeyRow

namespace ColumnRow

variable {keys : List String} {targets : Keyed Target}

theorem consistent_column_iff (row : ColumnRow) :
    (row.column keys targets).Consistent ↔ ∀ target ∈ targets.get? row.name, target.1 ≠ "" := by
  unfold column
  dsimp only
  cases htarget : targets.get? row.name with
  | none =>
      refine iff_of_true ?_ (by simp)
      split_ifs <;> rfl
  | some target =>
      have hgiven : isGiven (some target.1) = true ↔ target.1 ≠ "" := by simp [isGiven]
      simp only [Option.mem_def, Option.some.injEq, forall_eq', ← hgiven]
      exact eq_comm

end ColumnRow

theorem ofRows_eq_ok_iff {dialect : Dialect} {name : String} {columns : List ColumnRow}
    {keys : List KeyRow} {table : Table} :
    Table.ofRows dialect name columns keys = .ok table ↔
      KeyRow.NamesTargets dialect columns keys ∧ table = (
        let declared := KeyRow.primaryKey dialect columns keys
        let found := columns.map (ColumnRow.column declared (KeyRow.targets dialect keys))
        { name, columns := found, primaryKeys := primaryKeyOrder found declared }) := by
  rw [KeyRow.namesTargets_iff, Table.ofRows, Table.checked_eq_ok_iff]
  simp only [List.forall_mem_map, ColumnRow.consistent_column_iff, List.not_mem_nil,
    false_implies, implies_true, and_true]
  exact and_comm

theorem exists_ofRows_iff {dialect : Dialect} {name : String} {columns : List ColumnRow}
    {keys : List KeyRow} :
    (∃ table, Table.ofRows dialect name columns keys = .ok table) ↔
      KeyRow.NamesTargets dialect columns keys := by
  simp only [ofRows_eq_ok_iff, exists_and_left, exists_eq, and_true]

end RelSchema
