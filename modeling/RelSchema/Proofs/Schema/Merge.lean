import RelSchema.Proofs.Ddl.Key
import RelSchema.Proofs.Schema.Consistent

/-!
# Merges

A merged table has the name of its model, which up to case is that of the catalog, and so the tables
of a merge are those of the catalog and, behind them, the models without a counterpart. A column of
a model is filled from the column of its name, and what is filled this way is a fixed point:
neither filling a column from itself nor filling it again changes it. So a merge with the same
models can be repeated without effect.
-/

namespace RelSchema

open Ddl (DistinctFolds)

theorem find?_eq_some_of_nodup {α β : Type} [BEq β] [LawfulBEq β] {key : α → β} {elements : List α}
    (h : (elements.map key).Nodup) {a : α} (ha : a ∈ elements) :
    elements.find? (key · == key a) = some a := by
  cases hfound : elements.find? (key · == key a) with
  | none => exact absurd (beq_self_eq_true (key a)) (List.find?_eq_none.mp hfound a ha)
  | some found =>
      have hkey := List.find?_some (p := (key · == key a)) hfound
      rw [List.inj_on_of_nodup_map h (List.mem_of_find?_eq_some hfound) ha (beq_iff_eq.mp hkey)]

theorem filter_eq_singleton_of_nodup {α β : Type} [DecidableEq β] {key : α → β} {elements : List α}
    (h : (elements.map key).Nodup) {a : α} (ha : a ∈ elements) :
    elements.filter (key · = key a) = [a] := by
  obtain ⟨before, after, rfl⟩ := List.append_of_mem ha
  rw [List.map_append, List.map_cons, List.nodup_middle, List.nodup_cons, List.mem_append,
    not_or] at h
  have hnone : ∀ {others : List α}, key a ∉ others.map key →
      others.filter (key · = key a) = [] := fun hothers =>
    List.filter_eq_nil_iff.mpr fun other hother hkey =>
      hothers (List.mem_map.mpr ⟨other, hother, of_decide_eq_true hkey⟩)
  have hself : (a :: after).filter (key · = key a) = a :: after.filter (key · = key a) :=
    List.filter_cons_of_pos (decide_eq_true rfl)
  rw [List.filter_append, hself, hnone h.1.1, hnone h.1.2]
  rfl

namespace Column

variable {column known : Column}

theorem fillFrom_self : column.fillFrom column = column := by
  have htyped : (if column.type == "" then { column with type := column.type } else column)
      = column := ite_self column
  have hnone : ¬ (!column.isForeignKey && column.isForeignKey) = true := by simp
  unfold fillFrom
  rw [htyped]
  exact if_neg hnone

theorem fillFrom_fillFrom : column.fillFrom (column.fillFrom known) = column.fillFrom known := by
  by_cases htype : column.type = "" <;> cases hforeign : column.isForeignKey <;>
    cases hknown : known.isForeignKey <;> simp [fillFrom, htype, hforeign, hknown]

theorem name_fillFrom : (column.fillFrom known).name = column.name := by
  unfold fillFrom
  dsimp only
  split_ifs <;> rfl

/-- The column, filled from the last one of its name among the known ones. -/
def filledAmong (known : List Column) (column : Column) : Column :=
  match known.reverse.find? (·.name == column.name) with
  | some found => column.fillFrom found
  | none => column

theorem name_filledAmong (known : List Column) (column : Column) :
    (column.filledAmong known).name = column.name := by
  unfold filledAmong
  split
  · exact name_fillFrom
  · rfl

theorem map_name_filledAmong (known columns : List Column) :
    (columns.map (filledAmong known)).map (·.name) = columns.map (·.name) := by
  rw [List.map_map]
  exact List.map_congr_left fun column _ => name_filledAmong known column

theorem fillFrom_filledAmong (known : List Column) (column : Column) :
    column.fillFrom (column.filledAmong known) = column.filledAmong known := by
  unfold filledAmong
  split
  · exact fillFrom_fillFrom
  · exact fillFrom_self

/-- Columns of other names do not matter, and among columns of different names the only one of a
name is found. -/
theorem filledAmong_append {columns added : List Column} (hnodup : (columns.map (·.name)).Nodup)
    (hadded : ∀ other ∈ added, other.name ∉ columns.map (·.name)) (hknown : known ∈ columns)
    (hname : known.name = column.name) :
    column.filledAmong (columns ++ added) = column.fillFrom known := by
  have hother : added.reverse.find? (·.name == known.name) = none := by
    refine List.find?_eq_none.mpr fun other hmem hsame => ?_
    refine hadded other (List.mem_reverse.mp hmem) ?_
    rw [beq_iff_eq.mp hsame]
    exact List.mem_map_of_mem hknown
  have hfound : columns.reverse.find? (·.name == known.name) = some known := by
    refine find?_eq_some_of_nodup ?_ (List.mem_reverse.mpr hknown)
    rw [List.map_reverse]
    exact List.nodup_reverse.mpr hnodup
  unfold filledAmong
  rw [← hname, List.reverse_append, List.find?_append, hother, hfound, Option.none_or]

end Column

namespace Table

variable {policy : MergePolicy} {model catalog : Table}

def addedTo (policy : MergePolicy) (model : Table) (known : List Column) : List Column :=
  match policy with
  | .model => []
  | .union => known.filter fun column => !model.columnNames.contains column.name

theorem merge_eq (policy : MergePolicy) (model catalog : Table) :
    merge policy model catalog = {
      name := model.name
      columns := model.columns.map (Column.filledAmong catalog.columns) ++
        model.addedTo policy catalog.columns
      relations := model.relations
      primaryKeys := model.primaryKeys
      rowCount := catalog.rowCount } :=
  rfl

theorem mem_addedTo_iff {known : List Column} {column : Column} :
    column ∈ model.addedTo policy known ↔
      policy = .union ∧ column ∈ known ∧ column.name ∉ model.columnNames := by
  cases policy with
  | model => simp [addedTo]
  | union => simp [addedTo]

theorem addedTo_append {columns known : List Column}
    (hnames : ∀ column ∈ columns, column.name ∈ model.columnNames) :
    model.addedTo policy (columns ++ known) = model.addedTo policy known := by
  cases policy with
  | model => rfl
  | union =>
      have hnone : columns.filter (fun column => !model.columnNames.contains column.name) = [] :=
        List.filter_eq_nil_iff.mpr fun column hcolumn => by simpa using hnames column hcolumn
      exact (List.filter_append ..).trans (by rw [hnone]; rfl)

theorem addedTo_addedTo (known : List Column) :
    model.addedTo policy (model.addedTo policy known) = model.addedTo policy known := by
  cases policy with
  | model => rfl
  | union => exact List.filter_filter.trans (List.filter_congr fun column _ => Bool.and_self _)

theorem merge_self (hnodup : model.columnNames.Nodup) : merge policy model model = model := by
  have hfilled : model.columns.map (Column.filledAmong model.columns) = model.columns := by
    refine (List.map_congr_left fun column hcolumn => ?_).trans (List.map_id _)
    have hfill : column.filledAmong (model.columns ++ []) = column.fillFrom column :=
      Column.filledAmong_append hnodup (List.forall_mem_nil _) hcolumn rfl
    rw [List.append_nil] at hfill
    exact hfill.trans Column.fillFrom_self
  have hadded : model.addedTo policy model.columns = [] := by
    have hnone : model.addedTo policy (model.columns ++ []) = model.addedTo policy [] :=
      addedTo_append fun column hcolumn => List.mem_map_of_mem hcolumn
    rw [List.append_nil] at hnone
    rw [hnone]
    cases policy <;> rfl
  rw [merge_eq, hfilled, hadded, List.append_nil]

theorem merge_merge (hnodup : model.columnNames.Nodup) (catalog : Table) :
    merge policy model (merge policy model catalog) = merge policy model catalog := by
  set filled := model.columns.map (Column.filledAmong catalog.columns) with hfilled
  have hnames : filled.map (·.name) = model.columnNames :=
    Column.map_name_filledAmong catalog.columns model.columns
  have hagain : model.columns.map (Column.filledAmong
      (filled ++ model.addedTo policy catalog.columns)) = filled := by
    refine List.map_congr_left fun column hcolumn => ?_
    rw [Column.filledAmong_append (hnames ▸ hnodup) ?_ (List.mem_map_of_mem hcolumn)
      (Column.name_filledAmong catalog.columns column), Column.fillFrom_filledAmong]
    intro other hother
    rw [hnames]
    exact (mem_addedTo_iff.mp hother).2.2
  have hadded : model.addedTo policy (filled ++ model.addedTo policy catalog.columns)
      = model.addedTo policy catalog.columns := by
    rw [addedTo_append, addedTo_addedTo]
    intro column hcolumn
    exact hnames ▸ List.mem_map_of_mem hcolumn
  rw [merge_eq policy model (merge policy model catalog)]
  simp only [merge_eq policy model catalog, ← hfilled]
  rw [hagain, hadded]

/-! ### Sets of tables

A merge looks up models by name up to case. With distinct names each look-up finds its own table,
and the merge is one of table by table, with the models that none of them asked for at its end.
-/

def foldedName (table : Table) : String :=
  Text.fold table.name

theorem map_foldedName (tables : List Table) :
    tables.map foldedName = (tables.map (·.name)).map Text.fold :=
  List.map_map.symm

theorem of_mem_byName {tables : List Table} {entry : String × Table} (h : entry ∈ byName tables) :
    entry.2 ∈ tables ∧ entry.1 = entry.2.foldedName := by
  obtain ⟨table, htable, rfl⟩ := List.mem_map.mp (Keyed.mem_of_mem_ofList h)
  exact ⟨htable, rfl⟩

theorem byName_eq {tables : List Table} (h : DistinctFolds (tables.map (·.name))) :
    byName tables = tables.map fun table => (table.foldedName, table) := by
  refine Keyed.ofList_eq_self ?_
  rw [List.map_map]
  exact map_foldedName tables ▸ h

/-- What a merge makes of a table of the catalog, given the models by name. -/
def mergedAmong (policy : MergePolicy) (models : Keyed Table) (known : Table) : Table :=
  match models.get? known.foldedName with
  | some model => merge policy model known
  | none => known

theorem mergedAmong_of_some {models : Keyed Table} {model known : Table}
    (h : models.get? known.foldedName = some model) :
    mergedAmong policy models known = merge policy model known := by
  rw [mergedAmong, h]

theorem mergedAmong_of_none {models : Keyed Table} {known : Table}
    (h : models.get? known.foldedName = none) : mergedAmong policy models known = known := by
  rw [mergedAmong, h]

def withoutCounterpart (models : Keyed Table) (catalog : List Table) : List Table :=
  (models.filter fun (key, _) => !(catalog.map foldedName).contains key).map (·.2)

theorem mergeAll_eq (policy : MergePolicy) (models catalog : List Table) :
    mergeAll policy models catalog = catalog.map (mergedAmong policy (byName models)) ++
      withoutCounterpart (byName models) catalog :=
  rfl

theorem foldedName_mergedAmong (policy : MergePolicy) (models : List Table) (known : Table) :
    (mergedAmong policy (byName models) known).foldedName = known.foldedName := by
  cases hmodel : (byName models).get? known.foldedName with
  | none => rw [mergedAmong_of_none hmodel]
  | some model =>
      rw [mergedAmong_of_some hmodel]
      exact (of_mem_byName (Keyed.mem_of_get? hmodel)).2.symm

theorem map_foldedName_mergedAmong (policy : MergePolicy) (models catalog : List Table) :
    (catalog.map (mergedAmong policy (byName models))).map foldedName = catalog.map foldedName := by
  rw [List.map_map]
  exact List.map_congr_left fun known _ => foldedName_mergedAmong policy models known

theorem get?_byName (tables : List Table) (key : String) :
    (byName tables).get? key = tables.reverse.find? (·.foldedName == key) := by
  have hentries : (tables.map fun table => (Text.fold table.name, table)).reverse
      = tables.reverse.map fun table => (table.foldedName, table) := List.map_reverse.symm
  unfold byName
  rw [Keyed.get?_ofList, hentries, Keyed.get?_map foldedName]
  exact congrFun Option.map_id _

/-- Among distinct names, a table is looked up under its own name only. -/
theorem get?_byName_eq_some_iff {tables : List Table} (h : DistinctFolds (tables.map (·.name)))
    {key : String} {table : Table} :
    (byName tables).get? key = some table ↔ table ∈ tables ∧ table.foldedName = key := by
  constructor
  · intro hfound
    obtain ⟨hmem, hkey⟩ := of_mem_byName (Keyed.mem_of_get? hfound)
    exact ⟨hmem, hkey.symm⟩
  · rintro ⟨hmem, rfl⟩
    refine Keyed.get?_eq_some_of_mem (Keyed.nodup_keys_ofList _) ?_
    change (table.foldedName, table) ∈ byName tables
    rw [byName_eq h]
    exact List.mem_map_of_mem hmem

/-- What becomes of a table of the catalog: it is merged with a model of its name up to case, or
left as it is if there is none. -/
inductive MergedFrom (policy : MergePolicy) (models : List Table) (known : Table) : Table → Prop
  | merged {model : Table} (hmodel : model ∈ models)
      (hname : model.foldedName = known.foldedName) :
      MergedFrom policy models known (merge policy model known)
  | alone (hnone : ∀ model ∈ models, model.foldedName ≠ known.foldedName) :
      MergedFrom policy models known known

theorem mergedFrom_mergedAmong (policy : MergePolicy) (models : List Table) (known : Table) :
    MergedFrom policy models known (mergedAmong policy (byName models) known) := by
  cases hmodel : (byName models).get? known.foldedName with
  | none =>
      rw [mergedAmong_of_none hmodel]
      refine .alone fun model hmem hname => ?_
      rw [get?_byName, List.find?_eq_none] at hmodel
      exact hmodel model (List.mem_reverse.mpr hmem) (beq_iff_eq.mpr hname)
  | some model =>
      rw [mergedAmong_of_some hmodel]
      obtain ⟨hmem, hname⟩ := of_mem_byName (Keyed.mem_of_get? hmodel)
      exact .merged hmem hname.symm

theorem withoutCounterpart_eq {models : List Table} (h : DistinctFolds (models.map (·.name)))
    (catalog : List Table) :
    withoutCounterpart (byName models) catalog
      = models.filter (·.foldedName ∉ catalog.map foldedName) := by
  rw [withoutCounterpart, byName_eq h, List.filter_map, List.map_map]
  refine (List.map_id _).trans (List.filter_congr fun model _ => ?_)
  rw [decide_not, ← List.contains_eq_mem]
  rfl

theorem map_foldedName_mergeAll (policy : MergePolicy) {models : List Table}
    (h : DistinctFolds (models.map (·.name))) (catalog : List Table) :
    (mergeAll policy models catalog).map foldedName = catalog.map foldedName ++
      (models.filter (·.foldedName ∉ catalog.map foldedName)).map foldedName := by
  rw [mergeAll_eq, withoutCounterpart_eq h, List.map_append, map_foldedName_mergedAmong]

theorem distinctFolds_mergeAll (policy : MergePolicy) {models catalog : List Table}
    (hmodels : DistinctFolds (models.map (·.name)))
    (hcatalog : DistinctFolds (catalog.map (·.name))) :
    DistinctFolds ((mergeAll policy models catalog).map (·.name)) := by
  rw [DistinctFolds, ← map_foldedName] at hcatalog ⊢
  rw [map_foldedName_mergeAll policy hmodels]
  rw [DistinctFolds, ← map_foldedName] at hmodels
  refine List.nodup_append.mpr ⟨hcatalog, hmodels.sublist (List.filter_sublist.map _), ?_⟩
  rintro name hknown _ hmem rfl
  obtain ⟨model, hmodel, rfl⟩ := List.mem_map.mp hmem
  exact of_decide_eq_true (List.mem_filter.mp hmodel).2 hknown

/-- The tables of the catalog come first, each merged with the model of its name if there is one,
and the other models follow, so that each name occurs once. -/
theorem mergeAll_of_distinct (policy : MergePolicy) {models catalog : List Table}
    (hmodels : DistinctFolds (models.map (·.name)))
    (hcatalog : DistinctFolds (catalog.map (·.name))) :
    (∃ merged, List.Forall₂ (MergedFrom policy models) catalog merged ∧
      mergeAll policy models catalog
        = merged ++ models.filter (·.foldedName ∉ catalog.map foldedName)) ∧
    (mergeAll policy models catalog).map foldedName = catalog.map foldedName ++
      (models.filter (·.foldedName ∉ catalog.map foldedName)).map foldedName ∧
    DistinctFolds ((mergeAll policy models catalog).map (·.name)) := by
  have hmerged : List.Forall₂ (MergedFrom policy models) catalog
      (catalog.map (mergedAmong policy (byName models))) :=
    List.forall₂_map_right_iff.mpr
      (List.forall₂_same.mpr fun known _ => mergedFrom_mergedAmong policy models known)
  have heq := mergeAll_eq policy models catalog
  rw [withoutCounterpart_eq hmodels] at heq
  exact ⟨⟨_, hmerged, heq⟩, map_foldedName_mergeAll policy hmodels catalog,
    distinctFolds_mergeAll policy hmodels hcatalog⟩

/-- Each model is in the merge, as it is or merged with a table of its name. -/
theorem mem_mergeAll_of_mem (policy : MergePolicy) {models : List Table}
    (h : DistinctFolds (models.map (·.name))) (catalog : List Table) {model : Table}
    (hmodel : model ∈ models) : model ∈ mergeAll policy models catalog ∨
      ∃ known ∈ catalog, known.foldedName = model.foldedName ∧
        merge policy model known ∈ mergeAll policy models catalog := by
  rw [mergeAll_eq, withoutCounterpart_eq h]
  by_cases hname : model.foldedName ∈ catalog.map foldedName
  · obtain ⟨known, hknown, hname⟩ := List.mem_map.mp hname
    have hmerged : mergedAmong policy (byName models) known = merge policy model known :=
      mergedAmong_of_some ((get?_byName_eq_some_iff h).mpr ⟨hmodel, hname.symm⟩)
    exact Or.inr ⟨known, hknown, hname,
      List.mem_append_left _ (hmerged ▸ List.mem_map_of_mem hknown)⟩
  · exact Or.inl (List.mem_append_right _
      (List.mem_filter.mpr ⟨hmodel, decide_eq_true hname⟩))

/-- Models of which one is spelled differently in the catalog and one is unknown to it. -/
def libraryModels : List Table := [
  { name := "Loans"
    columns := [{ name := "id", type := "INTEGER", isPrimaryKey := true, isNullable := false },
      { name := "member_id" }]
    primaryKeys := ["id"] },
  { name := "notes", columns := [{ name := "text", type := "TEXT" }] }]

def libraryCatalog : List Table := [
  { name := "audit", columns := [{ name := "at", type := "TEXT" }], rowCount := 7 },
  { name := "LOANS"
    columns := [{ name := "id", type := "int" },
      { name := "member_id", type := "int", isForeignKey := true, foreignTable := some "members",
        foreignKey := some "id" },
      { name := "legacy", type := "TEXT" }]
    rowCount := 3 }]

theorem mergeAll_of_distinct_library :
    (DistinctFolds (libraryModels.map (·.name)) ∧ DistinctFolds (libraryCatalog.map (·.name))) ∧
      (mergeAll .union libraryModels libraryCatalog).map foldedName
        = ["audit", "loans", "notes"] := by
  have hmodels : DistinctFolds (libraryModels.map (·.name)) := by
    unfold DistinctFolds
    decide
  have hcatalog : DistinctFolds (libraryCatalog.map (·.name)) := by
    unfold DistinctFolds
    decide
  obtain ⟨-, hnames, -⟩ := mergeAll_of_distinct .union hmodels hcatalog
  exact ⟨⟨hmodels, hcatalog⟩, hnames.trans (by decide)⟩

theorem faults_merge (policy : MergePolicy) (hmodel : model.faults = [])
    (hcatalog : catalog.faults = []) : (merge policy model catalog).faults = [] := by
  obtain ⟨hcolumns, hrelations⟩ := faults_eq_nil_iff.mp hmodel
  have hknown : catalog.Consistent := (faults_eq_nil_iff.mp hcatalog).1
  exact faults_eq_nil_iff.mpr ⟨Consistent.merge policy hcolumns hknown, hrelations⟩

theorem MergedFrom.faults {models : List Table} {known table : Table}
    (h : MergedFrom policy models known table) (hmodels : ∀ model ∈ models, model.faults = [])
    (hknown : known.faults = []) : table.faults = [] := by
  cases h with
  | merged hmodel hname => exact faults_merge policy (hmodels _ hmodel) hknown
  | alone hnone => exact hknown

/-- A merge of tables that keep their rules consists of such tables. -/
theorem faults_mergeAll (policy : MergePolicy) {models catalog : List Table}
    (hmodels : ∀ model ∈ models, model.faults = [])
    (hcatalog : ∀ known ∈ catalog, known.faults = []) :
    ∀ table ∈ mergeAll policy models catalog, table.faults = [] := by
  intro table htable
  rw [mergeAll_eq, List.mem_append] at htable
  rcases htable with hmerged | hrest
  · obtain ⟨known, hknown, rfl⟩ := List.mem_map.mp hmerged
    exact (mergedFrom_mergedAmong policy models known).faults hmodels (hcatalog known hknown)
  · obtain ⟨entry, hentry, rfl⟩ := List.mem_map.mp hrest
    exact hmodels _ (of_mem_byName (List.mem_filter.mp hentry).1).1

theorem withoutCounterpart_mergeAll (policy : MergePolicy) (models catalog : List Table) :
    withoutCounterpart (byName models) (mergeAll policy models catalog) = [] := by
  refine List.map_eq_nil_iff.mpr (List.filter_eq_nil_iff.mpr fun entry hentry => ?_)
  rw [Bool.not_eq_true', Bool.not_eq_false, List.contains_iff_mem, mergeAll_eq, List.map_append,
    map_foldedName_mergedAmong, List.mem_append]
  by_cases hknown : entry.1 ∈ catalog.map foldedName
  · exact Or.inl hknown
  · right
    rw [(of_mem_byName hentry).2]
    refine List.mem_map_of_mem (List.mem_map_of_mem (List.mem_filter.mpr ⟨hentry, ?_⟩))
    simpa using hknown

section Again

variable {models : List Table} (hnodup : ∀ model ∈ models, model.columnNames.Nodup)

include hnodup

theorem mergedAmong_mergedAmong (policy : MergePolicy) (known : Table) :
    mergedAmong policy (byName models) (mergedAmong policy (byName models) known)
      = mergedAmong policy (byName models) known := by
  have hname := foldedName_mergedAmong policy models known
  cases hmodel : (byName models).get? known.foldedName with
  | none => rw [mergedAmong_of_none hmodel, mergedAmong_of_none hmodel]
  | some model =>
      have hmem := (of_mem_byName (Keyed.mem_of_get? hmodel)).1
      rw [mergedAmong_of_some (hname ▸ hmodel), mergedAmong_of_some hmodel,
        merge_merge (hnodup model hmem)]

theorem mergedAmong_of_mem (policy : MergePolicy) {entry : String × Table}
    (h : entry ∈ byName models) : mergedAmong policy (byName models) entry.2 = entry.2 := by
  obtain ⟨hmem, hkey⟩ := of_mem_byName h
  have hfound : (byName models).get? entry.2.foldedName = some entry.2 :=
    hkey ▸ Keyed.get?_eq_some_of_mem (Keyed.nodup_keys_ofList _) h
  rw [mergedAmong_of_some hfound, merge_self (hnodup entry.2 hmem)]

/-- Merging with the same models again changes nothing if no model has two columns of one name. -/
theorem mergeAll_mergeAll (policy : MergePolicy) (catalog : List Table) :
    mergeAll policy models (mergeAll policy models catalog) = mergeAll policy models catalog := by
  have hmerged : (catalog.map (mergedAmong policy (byName models))).map
      (mergedAmong policy (byName models))
      = catalog.map (mergedAmong policy (byName models)) := by
    rw [List.map_map]
    exact List.map_congr_left fun known _ => mergedAmong_mergedAmong hnodup policy known
  have hrest : (withoutCounterpart (byName models) catalog).map
      (mergedAmong policy (byName models)) = withoutCounterpart (byName models) catalog := by
    refine (List.map_congr_left fun table htable => ?_).trans (List.map_id _)
    obtain ⟨entry, hentry, rfl⟩ := List.mem_map.mp htable
    exact mergedAmong_of_mem hnodup policy (List.mem_filter.mp hentry).1
  rw [mergeAll_eq policy models (mergeAll policy models catalog), withoutCounterpart_mergeAll,
    List.append_nil, mergeAll_eq, List.map_append, hmerged, hrest]

end Again

/-- The library merged: the model has a type and a reference filled in and a column added. -/
def library : List Table := [
  { name := "audit", columns := [{ name := "at", type := "TEXT" }], rowCount := 7 },
  { name := "Loans"
    columns := [{ name := "id", type := "INTEGER", isPrimaryKey := true, isNullable := false },
      { name := "member_id", type := "int", isForeignKey := true, foreignTable := some "members",
        foreignKey := some "id" },
      { name := "legacy", type := "TEXT" }]
    primaryKeys := ["id"]
    rowCount := 3 },
  { name := "notes", columns := [{ name := "text", type := "TEXT" }] }]

theorem mergeAll_mergeAll_library :
    (∀ model ∈ libraryModels, model.columnNames.Nodup) ∧
      mergeAll .union libraryModels libraryCatalog = library ∧
      mergeAll .union libraryModels library = library := by
  have hnodup : ∀ model ∈ libraryModels, model.columnNames.Nodup := by decide
  have hmerged : mergeAll .union libraryModels libraryCatalog = library := by decide
  have hagain := mergeAll_mergeAll hnodup .union libraryCatalog
  rw [hmerged] at hagain
  exact ⟨hnodup, hmerged, hagain⟩

end Table

end RelSchema
