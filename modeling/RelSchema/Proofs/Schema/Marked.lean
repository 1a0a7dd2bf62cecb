import RelSchema.Proofs.Ddl.Coherent
import RelSchema.Proofs.Schema.Produced

/-!
# Keys and marks of the tables that texts describe

A primary key is made of the marks of the columns, or of declared names that the marks follow, and
references change neither. So the key and the marks say the same in every table whose column names
are distinct up to case, whether a script, markup or structures describe it.
-/

namespace RelSchema

open Ddl (DistinctFolds)

theorem fold_columnSpelling (columns : List Column) (name : String) :
    Text.fold (columnSpelling columns name) = Text.fold name := by
  unfold columnSpelling
  cases hfind : columns.reverse.find? fun column => Text.sameFold column.name name with
  | none => rfl
  | some found =>
      have hsame := List.find?_some hfind
      simpa [Text.sameFold] using hsame

namespace Table

/-- The key is made of the marks, or of declared names that the marks follow, and no marked column
may be null. -/
structure KeyFollows (table : Table) : Prop where
  not_nullable : ∀ column ∈ table.columns, column.isPrimaryKey = true → column.isNullable = false
  declared_keys : ∃ names, table.primaryKeys = primaryKeyOrder table.columns names ∧
    (names ≠ [] → ∀ column ∈ table.columns,
      column.isPrimaryKey = names.any (Text.sameFold column.name))

/-- The marked columns are those that the key names up to case, none of them may be null, and the
key has no repetitions. -/
structure KeyAgrees (table : Table) : Prop where
  not_nullable : ∀ column ∈ table.columns, column.isPrimaryKey = true → column.isNullable = false
  marked_iff : ∀ column ∈ table.columns, (column.isPrimaryKey = true ↔
    ∃ key ∈ table.primaryKeys, Text.fold column.name = Text.fold key)
  nodup : table.primaryKeys.Nodup

variable {table : Table}

theorem keyAgrees_of_marks
    (hnull : ∀ column ∈ table.columns, column.isPrimaryKey = true → column.isNullable = false)
    (hdistinct : DistinctFolds table.columnNames)
    (hkeys : table.primaryKeys = (table.columns.filter (·.isPrimaryKey)).map (·.name)) :
    table.KeyAgrees := by
  have hcoherent := Ddl.coherent_of_marks hdistinct hkeys
  refine ⟨hnull, fun column hcolumn => ?_, hcoherent.nodup⟩
  have hname : column.name ∈ table.columnNames := List.mem_map_of_mem hcolumn
  rw [hcoherent.marked column hcolumn, decide_eq_true_iff]
  constructor
  · exact fun hmem => ⟨column.name, hmem, rfl⟩
  · rintro ⟨key, hkey, hfold⟩
    have hsame : Text.sameFold column.name key = true := beq_iff_eq.mpr hfold
    rwa [hdistinct.eq_of_sameFold hname (hcoherent.subset hkey) hsame]

/-- A declared key agrees with marks that follow it, whatever it names. -/
theorem keyAgrees_of_declared
    (hnull : ∀ column ∈ table.columns, column.isPrimaryKey = true → column.isNullable = false)
    {names : List String}
    (hkeys : table.primaryKeys = distinct (names.map (columnSpelling table.columns)))
    (hmarks : ∀ column ∈ table.columns,
      column.isPrimaryKey = names.any (Text.sameFold column.name)) : table.KeyAgrees := by
  refine ⟨hnull, fun column hcolumn => ?_, by rw [hkeys]; exact Ddl.nodup_distinct _⟩
  rw [hmarks column hcolumn, List.any_eq_true, hkeys]
  constructor
  · rintro ⟨name, hname, hsame⟩
    refine ⟨columnSpelling table.columns name, ?_, ?_⟩
    · exact Ddl.mem_distinct.mpr (List.mem_map_of_mem hname)
    · rw [fold_columnSpelling]
      exact beq_iff_eq.mp hsame
  · rintro ⟨key, hkey, hfold⟩
    obtain ⟨name, hname, rfl⟩ := List.mem_map.mp (Ddl.mem_distinct.mp hkey)
    rw [fold_columnSpelling] at hfold
    exact ⟨name, hname, beq_iff_eq.mpr hfold⟩

theorem KeyFollows.agrees (h : table.KeyFollows) (hdistinct : DistinctFolds table.columnNames) :
    table.KeyAgrees := by
  obtain ⟨names, hkeys, hmarks⟩ := h.declared_keys
  cases names with
  | nil => exact keyAgrees_of_marks h.not_nullable hdistinct hkeys
  | cons name names =>
      exact keyAgrees_of_declared h.not_nullable hkeys (hmarks (List.cons_ne_nil name names))

/-- What the columns refer to does not matter for the key. -/
theorem KeyFollows.map {f : Column → Column} (h : table.KeyFollows)
    (hf : ∀ column, (f column).withoutReference = column.withoutReference) :
    KeyFollows { table with columns := table.columns.map f } := by
  have hsame := fun column => Column.withoutReference_eq_iff.mp (hf column)
  obtain ⟨names, hkeys, hmarks⟩ := h.declared_keys
  refine ⟨?_, names, ?_, ?_⟩
  · intro column hcolumn
    obtain ⟨original, horiginal, rfl⟩ := List.mem_map.mp hcolumn
    obtain ⟨-, -, -, hmark, hnullable, -⟩ := hsame original
    rw [hmark, hnullable]
    exact h.not_nullable original horiginal
  · rw [primaryKeyOrder_map (fun column => (hsame column).1) fun column => (hsame column).2.2.2.1]
    exact hkeys
  · intro hne column hcolumn
    obtain ⟨original, horiginal, rfl⟩ := List.mem_map.mp hcolumn
    obtain ⟨hname, -, -, hmark, -⟩ := hsame original
    rw [hmark, hname]
    exact hmarks hne original horiginal

end Table

theorem Ddl.ParsedTable.keyFollows {table : Table} (h : ParsedTable table) : table.KeyFollows :=
  ⟨fun column hcolumn => (h.parsed_columns column hcolumn).marked, h.declared_keys⟩

namespace Dbml

theorem marks_columnWith (name type : String) (settings : List Setting) :
    (columnWith name type settings).isPrimaryKey = settings.contains .primaryKey ∧
      (columnWith name type settings).isNullable
        = (!settings.contains .notNull && !settings.contains .primaryKey) := by
  unfold columnWith
  dsimp only
  split
  · exact ⟨rfl, rfl⟩
  · exact ⟨rfl, rfl⟩

/-- A table is closed with the key that its columns mark, and links only change references. -/
theorem kept_keyFollows :
    Kept (fun column => column.isPrimaryKey = true → column.isNullable = false)
      Table.KeyFollows where
  column := by
    intro line column hcolumn
    obtain ⟨found, -, rfl⟩ := Option.map_eq_some_iff.mp hcolumn
    obtain ⟨hmark, hnullable⟩ := marks_columnWith _ _ _
    intro hmarked
    rw [hnullable, ← hmark, hmarked, Bool.not_true, Bool.and_false]
  close _ _ hcolumns := ⟨hcolumns, [], rfl, fun hne => absurd rfl hne⟩
  link := by
    intro body link _ table htable
    apply htable.map
    intro column
    split_ifs
    · exact Column.withoutReference_asForeignKey _ _ _
    · rfl

end Dbml

namespace Models

theorem keyFollows_markForeign {table : Table} (h : table.KeyFollows) (name owner key : String) :
    Table.KeyFollows { table with columns := markForeign name owner key table.columns } := by
  apply h.map
  intro column
  split_ifs
  · exact Column.withoutReference_asForeignKey _ _ _
  · rfl

/-- The key of a structure's table is made of marks that its own relations leave alone. -/
theorem keyFollows_of_tableOf {dialect : Dialect} {declaration : Declaration} {table : Table}
    (h : tableOf dialect declaration = .ok table) : table.KeyFollows := by
  obtain ⟨relations, -, rfl⟩ := tableOf_eq_ok_iff.mp h
  refine ⟨?_, [], rfl, fun hne => absurd rfl hne⟩
  refine of_foldl_markLocal (p := fun columns => ∀ column ∈ columns,
    column.isPrimaryKey = true → column.isNullable = false) ?_ ?_
  · intro relation _ columns hcolumns column hcolumn
    obtain ⟨original, horiginal, rfl⟩ := List.mem_map.mp hcolumn
    split_ifs
    · exact hcolumns original horiginal
    · exact hcolumns original horiginal
  · intro column hcolumn
    obtain ⟨field, -, rfl⟩ := List.mem_map.mp hcolumn
    unfold columnOf
    dsimp only
    intro hmark
    rw [hmark]
    rfl

theorem keyFollows_of_parse {source tag : String} {dialect : Dialect} {tables : List Table}
    (h : parse source dialect tag = .ok tables) : ∀ table ∈ tables, table.KeyFollows := by
  obtain ⟨found, rfl, hfound⟩ := exists_of_parse h
  apply forall_mem_markTargets
  · intro owner _ relation _ table htable
    exact keyFollows_markForeign htable _ _ _
  · intro table htable
    obtain ⟨declaration, -, -, hread⟩ := hfound table htable
    exact keyFollows_of_tableOf hread

end Models

/-- The tables that a script, markup or structures describe. -/
inductive Described : Table → Prop
  | script {script : String} {dialect : Option String} {tables : List Table} {table : Table}
      (h : Ddl.parse script dialect = .ok tables) (hmem : table ∈ tables) : Described table
  | markup {text : String} {tables : List Table} {table : Table} (h : Dbml.parse text = .ok tables)
      (hmem : table ∈ tables) : Described table
  | source {source tag : String} {dialect : Dialect} {tables : List Table} {table : Table}
      (h : Models.parse source dialect tag = .ok tables) (hmem : table ∈ tables) : Described table

namespace Described

theorem keyFollows {table : Table} (h : Described table) : table.KeyFollows := by
  cases h with
  | @script script dialect tables _ h hmem =>
      obtain ⟨resolved, -, h⟩ := bind_eq_ok_iff.mp h
      exact (Ddl.parsedTable_of_scriptTables h table hmem).keyFollows
  | markup h hmem => exact Dbml.kept_keyFollows.of_parse h table hmem
  | source h hmem => exact Models.keyFollows_of_parse h table hmem

/-- In a described table whose column names are distinct up to case the key and the marks agree. -/
theorem keyAgrees {table : Table} (h : Described table)
    (hdistinct : DistinctFolds table.columnNames) : table.KeyAgrees :=
  h.keyFollows.agrees hdistinct

/-- A table with a declared key that takes the mark from a column, names one twice and names one
that is missing. -/
def shifts : Table where
  name := "shifts"
  columns := [
    { name := "id", type := "SERIAL", isNullable := false },
    { name := "Day", type := "DATE", isPrimaryKey := true, isNullable := false },
    { name := "crew", type := "INT", isForeignKey := true, foreignTable := some "crews",
      foreignKey := some "id" }]
  primaryKeys := ["Day", "hour"]

theorem keyAgrees_shifts :
    (Described shifts ∧ DistinctFolds shifts.columnNames) ∧ shifts.KeyAgrees := by
  have hread : Ddl.parse ("CREATE TABLE shifts (id SERIAL, \"Day\" DATE, crew INT, " ++
      "PRIMARY KEY (day, hour, DAY), FOREIGN KEY (CREW) REFERENCES crews (id))")
      (some "postgres") = .ok [shifts] := by decide +kernel
  have hdescribed : Described shifts := .script hread List.mem_cons_self
  have hdistinct : DistinctFolds shifts.columnNames := by
    unfold DistinctFolds
    decide
  exact ⟨⟨hdescribed, hdistinct⟩, hdescribed.keyAgrees hdistinct⟩

end Described

end RelSchema
