import RelSchema.Proofs.Ddl.Origin

/-!
# Keys and marks that agree

In a table of a script whose columns have distinct names and whose key names are among them, the
primary key has no repetitions and spells its names as the columns do, and exactly its columns are
marked.
-/

namespace RelSchema.Ddl

/-- Whether the key of a table lists its marked columns. -/
structure Coherent (table : Table) : Prop where
  distinct : DistinctFolds table.columnNames
  nodup : table.primaryKeys.Nodup
  subset : table.primaryKeys ⊆ table.columnNames
  marked : ∀ column ∈ table.columns, column.isPrimaryKey = decide (column.name ∈ table.primaryKeys)

theorem mem_distinct {names : List String} {name : String} :
    name ∈ distinct names ↔ name ∈ names := by
  induction names with
  | nil => simp [RelSchema.distinct]
  | cons first rest ih =>
      rw [RelSchema.distinct, List.mem_cons, List.mem_cons, List.mem_filter, ih]
      by_cases h : name = first <;> simp [h]

theorem nodup_distinct (names : List String) : (distinct names).Nodup := by
  induction names with
  | nil => exact List.nodup_nil
  | cons first rest ih =>
      rw [RelSchema.distinct, List.nodup_cons]
      exact ⟨by simp, ih.filter _⟩

/-- A column of a name up to case gives the name its spelling. -/
theorem columnSpelling_of_sameFold {columns : List Column}
    (hdistinct : DistinctFolds (columns.map (·.name))) {column : Column} (hcolumn : column ∈ columns)
    {name : String} (hsame : Text.sameFold column.name name = true) :
    columnSpelling columns name = column.name := by
  rw [columnSpelling]
  cases hfind : columns.reverse.find? fun column => Text.sameFold column.name name with
  | none =>
      have hnone := List.find?_eq_none.mp hfind column (List.mem_reverse.mpr hcolumn)
      exact absurd hsame hnone
  | some found =>
      have hfound : found ∈ columns := List.mem_reverse.mp (List.mem_of_find?_eq_some hfind)
      have hfoundSame : Text.sameFold found.name name = true :=
        List.find?_some (p := fun column : Column => Text.sameFold column.name name) hfind
      refine hdistinct.eq_of_sameFold (List.mem_map_of_mem hfound) (List.mem_map_of_mem hcolumn) ?_
      simp only [Text.sameFold, beq_iff_eq] at hfoundSame hsame ⊢
      exact hfoundSame.trans hsame.symm

theorem columnSpelling_of_absent {columns : List Column} {name : String}
    (h : ∀ column ∈ columns, Text.sameFold column.name name = false) :
    columnSpelling columns name = name := by
  have hnone : columns.reverse.find? (fun column => Text.sameFold column.name name) = none := by
    refine List.find?_eq_none.mpr fun column hcolumn => ?_
    rw [h column (List.mem_reverse.mp hcolumn)]
    exact Bool.false_ne_true
  rw [columnSpelling, hnone]
  rfl

theorem exists_sameFold_of_hasColumn {table : Table} {name : String}
    (h : table.hasColumn name = true) :
    ∃ column ∈ table.columns, Text.sameFold column.name name = true := by
  rw [Table.hasColumn, Table.column?] at h
  cases hexact : table.columns.find? (·.name == name) with
  | some column =>
      have hname : column.name = name := by
        simpa using List.find?_some hexact
      exact ⟨column, List.mem_of_find?_eq_some hexact, by rw [hname]; exact sameFold_self name⟩
  | none =>
      rw [hexact] at h
      obtain ⟨column, hcolumn⟩ := Option.isSome_iff_exists.mp h
      exact ⟨column, List.mem_of_find?_eq_some hcolumn,
        List.find?_some (p := fun column : Column => Text.sameFold column.name name) hcolumn⟩

/-- The key of a table without a declared one lists the marked columns. -/
theorem coherent_of_marks {table : Table} (hdistinct : DistinctFolds table.columnNames)
    (hkeys : table.primaryKeys = (table.columns.filter (·.isPrimaryKey)).map (·.name)) :
    Coherent table := by
  refine ⟨hdistinct, ?_, ?_, fun column hcolumn => ?_⟩
  · rw [hkeys]
    exact hdistinct.nodup.sublist (List.filter_sublist.map _)
  · rw [hkeys]
    exact List.map_subset _ (List.filter_subset_self _)
  · rw [hkeys, Bool.eq_iff_iff, decide_eq_true_iff]
    constructor
    · exact fun hmark => List.mem_map_of_mem (List.mem_filter.mpr ⟨hcolumn, hmark⟩)
    · intro hmem
      obtain ⟨other, hother, hname⟩ := List.mem_map.mp hmem
      obtain ⟨hother, hmark⟩ := List.mem_filter.mp hother
      rwa [← List.inj_on_of_nodup_map hdistinct.nodup hother hcolumn hname]

/-- A declared key marks the columns that it names. -/
theorem coherent_of_declared {table : Table} (hdistinct : DistinctFolds table.columnNames)
    (hcolumns : ∀ key ∈ table.primaryKeys, table.hasColumn key = true) {names : List String}
    (hkeys : table.primaryKeys = distinct (names.map (columnSpelling table.columns)))
    (hmarks : ∀ column ∈ table.columns,
      column.isPrimaryKey = names.any (Text.sameFold column.name)) : Coherent table := by
  have hspelled : ∀ name ∈ names, ∃ column ∈ table.columns,
      Text.sameFold column.name name = true ∧ columnSpelling table.columns name = column.name := by
    intro name hname
    have hmem : columnSpelling table.columns name ∈ table.primaryKeys := by
      rw [hkeys, mem_distinct]
      exact List.mem_map_of_mem hname
    by_cases habsent : ∀ column ∈ table.columns, Text.sameFold column.name name = false
    · obtain ⟨column, hcolumn, hsame⟩ := exists_sameFold_of_hasColumn (hcolumns _ hmem)
      rw [columnSpelling_of_absent habsent, habsent column hcolumn] at hsame
      cases hsame
    · push Not at habsent
      obtain ⟨column, hcolumn, hsame⟩ := habsent
      rw [ne_eq, Bool.not_eq_false] at hsame
      exact ⟨column, hcolumn, hsame, columnSpelling_of_sameFold hdistinct hcolumn hsame⟩
  refine ⟨hdistinct, by rw [hkeys]; exact nodup_distinct _, fun key hkey => ?_,
    fun column hcolumn => ?_⟩
  · rw [hkeys, mem_distinct] at hkey
    obtain ⟨name, hname, rfl⟩ := List.mem_map.mp hkey
    obtain ⟨column, hcolumn, -, hspelling⟩ := hspelled name hname
    rw [hspelling]
    exact List.mem_map_of_mem hcolumn
  · rw [hmarks column hcolumn, hkeys, Bool.eq_iff_iff, decide_eq_true_iff, mem_distinct,
      List.any_eq_true]
    constructor
    · rintro ⟨name, hname, hsame⟩
      rw [← columnSpelling_of_sameFold hdistinct hcolumn hsame]
      exact List.mem_map_of_mem hname
    · intro hmem
      obtain ⟨name, hname, hspelling⟩ := List.mem_map.mp hmem
      obtain ⟨found, hfound, hsame, hspelling'⟩ := hspelled name hname
      refine ⟨name, hname, ?_⟩
      rwa [← hspelling, hspelling']

/-- The key of a table of a script agrees with the marks of the columns. -/
theorem ParsedTable.coherent {table : Table} (h : ParsedTable table)
    (hdistinct : DistinctFolds table.columnNames)
    (hcolumns : ∀ key ∈ table.primaryKeys, table.hasColumn key = true) : Coherent table := by
  obtain ⟨names, hkeys, hmarks⟩ := h.declared_keys
  cases names with
  | nil => exact coherent_of_marks hdistinct hkeys
  | cons name names =>
      exact coherent_of_declared hdistinct hcolumns hkeys (hmarks (List.cons_ne_nil _ _))

theorem Coherent.keyColumns_eq {table : Table} (h : Coherent table) :
    table.keyColumns = table.primaryKeys := by
  rw [Table.keyColumns]
  split
  · next hempty =>
    have hnone : table.columns.filter (·.isPrimaryKey) = [] := by
      refine List.filter_eq_nil_iff.mpr fun column hcolumn => ?_
      rw [h.marked column hcolumn, List.isEmpty_iff.mp hempty]
      simp
    rw [hnone, List.isEmpty_iff.mp hempty]
    rfl
  · rfl

end RelSchema.Ddl
