import RelSchema.Ddl.Render
import RelSchema.Models.Render
import RelSchema.Proofs.Schema.Merge

/-!
# What a merge makes of names, keys and counts

Tables are matched up to case, but their columns by exact names, a column that is added keeps its
mark whatever the key of the model says, and row counts are looked up in the spelling of the models.
So a merge has distinct column names, a key that its marks follow, and all counts exactly where the
two sides agree: in the spelling of the columns they share, in the keys as far as they name columns
that only the catalog knows, and in the spelling of the tables that are counted.
-/

namespace RelSchema

open Ddl (DistinctFolds)

theorem Ddl.distinctFolds_append_iff {names others : List String} :
    DistinctFolds (names ++ others) ↔ DistinctFolds names ∧ DistinctFolds others ∧
      ∀ name ∈ names, ∀ other ∈ others, Text.fold name ≠ Text.fold other := by
  unfold DistinctFolds
  rw [List.map_append, List.nodup_append]
  simp only [List.forall_mem_map]

namespace Table

variable {policy : MergePolicy} {model catalog : Table}

theorem addedTo_sublist (known : List Column) : (model.addedTo policy known).Sublist known := by
  cases policy with
  | model => exact List.nil_sublist known
  | union => exact List.filter_sublist

theorem columnNames_merge (policy : MergePolicy) (model catalog : Table) :
    (merge policy model catalog).columnNames
      = model.columnNames ++ (model.addedTo policy catalog.columns).map (·.name) := by
  rw [merge_eq, columnNames, List.map_append, Column.map_name_filledAmong]
  rfl

/-- Whether the tables spell the names of their columns in the same way where these are the same up
to case. -/
def SpelledAlike (table other : Table) : Prop :=
  ∀ name ∈ table.columnNames, ∀ known ∈ other.columnNames,
    Text.fold name = Text.fold known → name = known

/-- A merge keeps column names distinct up to case exactly if it adds no columns or the catalog
spells no column of the model differently. -/
theorem distinctFolds_merge_iff (policy : MergePolicy) (hmodel : DistinctFolds model.columnNames)
    (hcatalog : DistinctFolds catalog.columnNames) :
    DistinctFolds (merge policy model catalog).columnNames ↔
      (policy = .union → model.SpelledAlike catalog) := by
  have hadded : DistinctFolds ((model.addedTo policy catalog.columns).map (·.name)) :=
    hcatalog.sublist (((addedTo_sublist catalog.columns).map _).map _)
  rw [columnNames_merge, Ddl.distinctFolds_append_iff]
  constructor
  · rintro ⟨-, -, hapart⟩ hpolicy name hname known hknown hfold
    by_contra hne
    -- the model has a column of this name up to case already, so the other spelling is new to it
    have hnew : known ∉ model.columnNames := fun hmem =>
      hne (List.inj_on_of_nodup_map hmodel hname hmem hfold)
    obtain ⟨column, hcolumn, rfl⟩ := List.mem_map.mp hknown
    refine hapart name hname column.name (List.mem_map_of_mem ?_) hfold
    exact mem_addedTo_iff.mpr ⟨hpolicy, hcolumn, hnew⟩
  · intro hspelled
    refine ⟨hmodel, hadded, fun name hname known hknown hfold => ?_⟩
    obtain ⟨column, hcolumn, rfl⟩ := List.mem_map.mp hknown
    obtain ⟨hpolicy, hcolumn, hnew⟩ := mem_addedTo_iff.mp hcolumn
    have hsame : name = column.name :=
      hspelled hpolicy name hname column.name (List.mem_map_of_mem hcolumn) hfold
    exact hnew (hsame ▸ hname)

def membersModel : Table where
  name := "Members"
  columns := [
    { name := "id", type := "INTEGER", isPrimaryKey := true, isNullable := false },
    { name := "Email", type := "TEXT" }]
  primaryKeys := ["id"]

/-- Members as a database describes them, with the given name for their addresses. -/
def membersCatalog (address : String) : Table where
  name := "members"
  columns := [{ name := address, type := "TEXT" }, { name := "joined", type := "DATE" },
    { name := "id", type := "INTEGER", isPrimaryKey := true, isNullable := false }]
  primaryKeys := ["id"]

theorem distinctFolds_merge_members :
    (DistinctFolds membersModel.columnNames ∧
      DistinctFolds (membersCatalog "Email").columnNames) ∧
    (merge .union membersModel (membersCatalog "Email")).columnNames = ["id", "Email", "joined"] ∧
    DistinctFolds (merge .union membersModel (membersCatalog "Email")).columnNames := by
  have hmodel : DistinctFolds membersModel.columnNames := by
    unfold DistinctFolds
    decide
  have hcatalog : DistinctFolds (membersCatalog "Email").columnNames := by
    unfold DistinctFolds
    decide
  have hspelled : membersModel.SpelledAlike (membersCatalog "Email") := by
    unfold SpelledAlike
    decide
  exact ⟨⟨hmodel, hcatalog⟩, by decide,
    (distinctFolds_merge_iff .union hmodel hcatalog).mpr fun _ => hspelled⟩

/-- A column that the catalog spells differently comes to stand beside that of the model. -/
theorem not_distinctFolds_merge_members :
    DistinctFolds membersModel.columnNames ∧ DistinctFolds (membersCatalog "email").columnNames ∧
    (merge .union membersModel (membersCatalog "email")).columnNames
      = ["id", "Email", "email", "joined"] ∧
    ¬ DistinctFolds (merge .union membersModel (membersCatalog "email")).columnNames := by
  unfold DistinctFolds
  decide

end Table

namespace Column

theorem isPrimaryKey_fillFrom (column known : Column) :
    (column.fillFrom known).isPrimaryKey = column.isPrimaryKey := by
  unfold fillFrom
  dsimp only
  split_ifs <;> rfl

theorem isPrimaryKey_filledAmong (known : List Column) (column : Column) :
    (column.filledAmong known).isPrimaryKey = column.isPrimaryKey := by
  unfold filledAmong
  split
  · exact isPrimaryKey_fillFrom column _
  · rfl

end Column

/-- Whether the statement for a table makes the column a part of the table's key, in the clause of
the column or in the definition of a key of several columns. -/
def Ddl.InKey (keys : List String) (column : Column) : Prop :=
  nullability keys column = .primaryKey ∨
    1 < keys.length ∧ ∃ key ∈ keys, Text.fold column.name = Text.fold key

/-- A statement finds the columns of a key up to case. -/
theorem Ddl.inKey_iff {keys : List String} {column : Column} :
    InKey keys column ↔ ∃ key ∈ keys, Text.fold column.name = Text.fold key := by
  have hany : keys.any (Text.sameFold column.name) = true ↔
      ∃ key ∈ keys, Text.fold column.name = Text.fold key := by
    simp only [List.any_eq_true, Text.sameFold, beq_iff_eq]
  have hclause : nullability keys column = .primaryKey ↔
      keys.any (Text.sameFold column.name) = true ∧ keys.length ≤ 1 := by
    unfold nullability
    dsimp only
    cases keys.any (Text.sameFold column.name) <;> by_cases hshort : keys.length ≤ 1 <;>
      cases column.isNullable <;> simp [hshort]
  rw [InKey, hclause, hany]
  constructor
  · rintro (⟨hkey, -⟩ | ⟨-, hkey⟩)
    · exact hkey
    · exact hkey
  · intro hkey
    rcases Nat.lt_or_ge 1 keys.length with hlong | hshort
    · exact Or.inr ⟨hlong, hkey⟩
    · exact Or.inl ⟨hkey, hshort⟩

/-- A structure tells the columns of a key by their marks. -/
theorem Models.mem_columnOptions_iff {column : Column} :
    "primaryKey" ∈ columnOptions column ↔ column.isPrimaryKey = true := by
  have hvalued : ∀ option ∈ ["column:", "size:", "default:"], ∀ value : String,
      "primaryKey" ≠ option ++ value := by
    intro option hoption value heq
    have hhead : "primaryKey".toList.head? = (option ++ value).toList.head? := by rw [heq]
    simp only [List.mem_cons, List.not_mem_nil, or_false] at hoption
    rcases hoption with rfl | rfl | rfl <;> simp at hhead
  unfold columnOptions
  simp only [List.mem_append, List.mem_singleton]
  constructor
  · rintro ((((hkey | hname) | hsize) | hrequired) | hdefault)
    · split_ifs at hkey with hmark
      · exact hmark
      · cases hkey
    · exact absurd hname (hvalued _ (by simp) _)
    · split_ifs at hsize
      · cases hsize
      · exact absurd (List.mem_singleton.mp hsize) (hvalued _ (by simp) _)
    · split_ifs at hrequired
      · cases hrequired
      · exact absurd (List.mem_singleton.mp hrequired) (by decide)
    · split at hdefault
      · cases hdefault
      · cases hdefault
      · exact absurd (List.mem_singleton.mp hdefault) (hvalued _ (by simp) _)
  · intro hmark
    rw [if_pos hmark]
    exact Or.inl (Or.inl (Or.inl (Or.inl List.mem_cons_self)))

namespace Table

/-- Whether the marked columns of the table are those that its key names. -/
def MarksKey (table : Table) : Prop :=
  ∀ column ∈ table.columns, (column.isPrimaryKey = true ↔ column.name ∈ table.primaryKeys)

/-- Whether the statement and the structure that are written for the table give it the same key. -/
def WritesOneKey (table : Table) : Prop :=
  ∀ column ∈ table.columns,
    (Ddl.InKey table.keyColumns column ↔ "primaryKey" ∈ Models.columnOptions column)

/-- Where the marks follow a key, it is written in one way unless it names a column in another
spelling. -/
theorem writesOneKey_iff {table : Table} (hmarks : table.MarksKey)
    (hkeys : table.primaryKeys ≠ []) :
    table.WritesOneKey ↔ ∀ name ∈ table.columnNames, ∀ key ∈ table.primaryKeys,
      Text.fold name = Text.fold key → name ∈ table.primaryKeys := by
  have hdeclared : table.keyColumns = table.primaryKeys :=
    if_neg (by rwa [List.isEmpty_iff])
  unfold WritesOneKey columnNames
  rw [hdeclared, List.forall_mem_map]
  refine forall₂_congr fun column hcolumn => ?_
  rw [Ddl.inKey_iff, Models.mem_columnOptions_iff, hmarks column hcolumn]
  constructor
  · intro hsame key hkey hfold
    exact hsame.mp ⟨key, hkey, hfold⟩
  · intro hspelled
    refine ⟨?_, fun hname => ⟨column.name, hname, rfl⟩⟩
    rintro ⟨key, hkey, hfold⟩
    exact hspelled key hkey hfold

variable {policy : MergePolicy} {model catalog : Table}

theorem mem_columns_merge_iff {column : Column} :
    column ∈ (merge policy model catalog).columns ↔
      (∃ original ∈ model.columns, original.filledAmong catalog.columns = column) ∨
        column ∈ model.addedTo policy catalog.columns := by
  rw [merge_eq, List.mem_append, List.mem_map]

/-- The columns of the model keep their marks, so the marks of a merge follow the key of the model
if those of the added columns do. -/
theorem marksKey_merge (hmodel : model.MarksKey) (hcatalog : catalog.MarksKey) :
    (merge policy model catalog).MarksKey ↔ (policy = .union → ∀ name ∈ catalog.columnNames,
      name ∉ model.columnNames → (name ∈ catalog.primaryKeys ↔ name ∈ model.primaryKeys)) := by
  constructor
  · intro hmerged hpolicy name hname hnew
    obtain ⟨column, hcolumn, rfl⟩ := List.mem_map.mp hname
    have hadded : column ∈ (merge policy model catalog).columns :=
      mem_columns_merge_iff.mpr (Or.inr (mem_addedTo_iff.mpr ⟨hpolicy, hcolumn, hnew⟩))
    exact (hcatalog column hcolumn).symm.trans (hmerged column hadded)
  · intro hkeys column hcolumn
    rcases mem_columns_merge_iff.mp hcolumn with ⟨original, horiginal, rfl⟩ | hadded
    · rw [Column.isPrimaryKey_filledAmong, Column.name_filledAmong]
      exact hmodel original horiginal
    · obtain ⟨hpolicy, hknown, hnew⟩ := mem_addedTo_iff.mp hadded
      exact (hcatalog column hknown).trans
        (hkeys hpolicy column.name (List.mem_map_of_mem hknown) hnew)

/-- The marks of a merge follow its key exactly if it adds no columns or the two keys agree on the
columns that only the catalog knows. The key of such a merge is written in one way exactly if it
names no column in another spelling. -/
theorem marksKey_merge_iff (policy : MergePolicy) (hmodel : model.MarksKey)
    (hkeys : model.primaryKeys ≠ []) (hcatalog : catalog.MarksKey) :
    ((merge policy model catalog).MarksKey ↔ (policy = .union → ∀ name ∈ catalog.columnNames,
      name ∉ model.columnNames → (name ∈ catalog.primaryKeys ↔ name ∈ model.primaryKeys))) ∧
    ((merge policy model catalog).MarksKey → ((merge policy model catalog).WritesOneKey ↔
      ∀ name ∈ (merge policy model catalog).columnNames, ∀ key ∈ model.primaryKeys,
        Text.fold name = Text.fold key → name ∈ model.primaryKeys)) :=
  ⟨marksKey_merge hmodel hcatalog, fun hmarks => writesOneKey_iff hmarks hkeys⟩

theorem marksKey_merge_members :
    (membersModel.MarksKey ∧ membersModel.primaryKeys ≠ [] ∧
      (membersCatalog "Email").MarksKey) ∧
    (merge .union membersModel (membersCatalog "Email")).MarksKey ∧
    (merge .union membersModel (membersCatalog "Email")).WritesOneKey := by
  have hmodel : membersModel.MarksKey := by
    unfold MarksKey
    decide
  have hcatalog : (membersCatalog "Email").MarksKey := by
    unfold MarksKey
    decide
  have hkeys : membersModel.primaryKeys ≠ [] := by decide
  obtain ⟨hmarked, hwritten⟩ := marksKey_merge_iff .union hmodel hkeys hcatalog
  have hmarks : (merge .union membersModel (membersCatalog "Email")).MarksKey :=
    hmarked.mpr (by decide)
  exact ⟨⟨hmodel, hkeys, hcatalog⟩, hmarks, (hwritten hmarks).mpr (by decide)⟩

/-- Orders under a key that their model does not know. -/
def ordersCatalog : Table where
  name := "orders"
  columns := [{ name := "number", type := "INTEGER", isPrimaryKey := true, isNullable := false }]
  primaryKeys := ["number"]

def ordersModel : Table where
  name := "orders"
  columns := [{ name := "id", type := "INTEGER", isPrimaryKey := true, isNullable := false }]
  primaryKeys := ["id"]

/-- An added column is still marked, so the structure of the merge has a key of two columns and its
statement one of one column. -/
theorem not_marksKey_merge_orders :
    (DistinctFolds ordersModel.columnNames ∧ ordersModel.MarksKey ∧
      ordersModel.primaryKeys ≠ []) ∧
    (DistinctFolds ordersCatalog.columnNames ∧ ordersCatalog.MarksKey) ∧
    ¬ (merge .union ordersModel ordersCatalog).MarksKey ∧
    ¬ (merge .union ordersModel ordersCatalog).WritesOneKey := by
  unfold DistinctFolds MarksKey WritesOneKey
  simp only [Ddl.inKey_iff]
  decide

/-- The table with the count that is known under the name, if there is one. -/
def countedAs (counts : Keyed Int) (name : String) (table : Table) : Table :=
  { table with rowCount := (counts.get? name).getD table.rowCount }

theorem withRowCount_eq (counts : Keyed Int) (table : Table) :
    table.withRowCount counts = table.countedAs counts table.name := by
  unfold withRowCount countedAs
  cases counts.get? table.name <;> rfl

theorem countedAs_of_none {counts : Keyed Int} {name : String} (h : counts.get? name = none)
    (table : Table) : table.countedAs counts name = table := by
  rw [countedAs, h]
  rfl

section Counts

variable {models catalog : List Table} {counts : Keyed Int}

/-- Whether the tables are those of a merge, each one from a table of the catalog with the count
under the name that this has there, and all others as the merge makes them. -/
def IsCountedMerge (policy : MergePolicy) (models catalog : List Table) (counts : Keyed Int)
    (tables : List Table) : Prop :=
  ∃ merged, List.Forall₂ (MergedFrom policy models) catalog merged ∧
    mergeAll policy models catalog
      = merged ++ models.filter (·.foldedName ∉ catalog.map foldedName) ∧
    tables = List.zipWith (fun known table => table.countedAs counts known.name) catalog merged ++
      models.filter (·.foldedName ∉ catalog.map foldedName)

theorem isCountedMerge_iff (policy : MergePolicy) (hmodels : DistinctFolds (models.map (·.name)))
    {tables : List Table} :
    IsCountedMerge policy models catalog counts tables ↔
      tables = catalog.map (fun known =>
        (mergedAmong policy (byName models) known).countedAs counts known.name) ++
          models.filter (·.foldedName ∉ catalog.map foldedName) := by
  have hall := mergeAll_eq policy models catalog
  rw [withoutCounterpart_eq hmodels] at hall
  unfold IsCountedMerge
  constructor
  · rintro ⟨merged, -, hmerged, rfl⟩
    obtain rfl := List.append_cancel_right (hmerged.symm.trans hall)
    rw [List.zipWith_map_right, List.zipWith_self]
  · rintro rfl
    refine ⟨catalog.map (mergedAmong policy (byName models)), ?_, hall, ?_⟩
    · rw [List.forall₂_map_right_iff, List.forall₂_same]
      exact fun known _ => mergedFrom_mergedAmong policy models known
    · rw [List.zipWith_map_right, List.zipWith_self]

variable (hmodels : DistinctFolds (models.map (·.name)))
  (hcatalog : DistinctFolds (catalog.map (·.name)))
  (hcounts : counts.keys ⊆ catalog.map (·.name))

include hcounts in
theorem withRowCount_of_not_mem {table : Table} (h : table.name ∉ catalog.map (·.name)) :
    table.withRowCount counts = table := by
  rw [withRowCount_eq]
  exact countedAs_of_none (Keyed.get?_eq_none fun hkey => h (hcounts hkey)) table

include hcatalog hcounts in
/-- Among tables that are distinct up to case, none has the name of a model that is spelled
differently from its counterpart. -/
theorem withRowCount_merge_of_ne {policy : MergePolicy} {model known : Table}
    (hknown : known ∈ catalog) (hname : model.foldedName = known.foldedName)
    (hne : model.name ≠ known.name) :
    (merge policy model known).withRowCount counts = merge policy model known := by
  refine withRowCount_of_not_mem hcounts fun hmem => hne ?_
  exact List.inj_on_of_nodup_map hcatalog hmem (List.mem_map_of_mem hknown) hname

theorem eq_countedAs_iff {table : Table} {name : String} :
    table = table.countedAs counts name ↔
      ∀ count ∈ counts.get? name, count = table.rowCount := by
  unfold countedAs
  cases counts.get? name with
  | none => simp
  | some count =>
      constructor
      · intro heq other hother
        obtain rfl := Option.some.inj hother
        exact (congrArg Table.rowCount heq).symm
      · intro hsame
        rw [Option.getD_some, hsame count rfl]

include hmodels hcatalog hcounts in
/-- The table from a table of the catalog has its count unless a model spells the name differently,
and then only if the catalog has the same count itself. -/
theorem withRowCount_mergedAmong_iff (policy : MergePolicy) {known : Table}
    (hknown : known ∈ catalog) :
    (mergedAmong policy (byName models) known).withRowCount counts
        = (mergedAmong policy (byName models) known).countedAs counts known.name ↔
      ∀ model ∈ models, model.foldedName = known.foldedName → model.name ≠ known.name →
        ∀ count ∈ counts.get? known.name, count = known.rowCount := by
  have hfrom := mergedFrom_mergedAmong policy models known
  generalize mergedAmong policy (byName models) known = merged at hfrom
  cases hfrom with
  | alone hnone =>
      rw [withRowCount_eq]
      exact iff_of_true rfl fun model hmodel hname => absurd hname (hnone model hmodel)
  | @merged model hmodel hname =>
      have hsole : ∀ other ∈ models, other.foldedName = known.foldedName → other = model :=
        fun other hother hsame => List.inj_on_of_nodup_map (map_foldedName models ▸ hmodels)
          hother hmodel (hsame.trans hname.symm)
      by_cases hspelled : model.name = known.name
      · have hcounted : (merge policy model known).withRowCount counts
            = (merge policy model known).countedAs counts known.name := by
          rw [withRowCount_eq, ← hspelled]
          rfl
        refine iff_of_true hcounted fun other hother hsame hne => ?_
        rw [hsole other hother hsame] at hne
        exact absurd hspelled hne
      · rw [withRowCount_merge_of_ne hcatalog hcounts hknown hname hspelled, eq_countedAs_iff]
        constructor
        · exact fun hcount _ _ _ _ => hcount
        · exact fun hcount => hcount model hmodel hname hspelled

include hmodels hcatalog hcounts in
/-- In a snapshot the table from each table of the catalog has the count under its name there, and
all other tables keep their counts, exactly if no model of a counted table spells its name
differently or the catalog has the same count itself. -/
theorem isCountedMerge_build_iff (policy : MergePolicy) (driver database : String) :
    IsCountedMerge policy models catalog counts
        (Snapshot.build policy models catalog driver counts database).tables ↔
      ∀ known ∈ catalog, ∀ model ∈ models, model.foldedName = known.foldedName →
        model.name ≠ known.name → ∀ count ∈ counts.get? known.name, count = known.rowCount := by
  have hrest : (models.filter (·.foldedName ∉ catalog.map foldedName)).map (withRowCount counts)
      = models.filter (·.foldedName ∉ catalog.map foldedName) := by
    refine (List.map_congr_left fun table htable => ?_).trans (List.map_id _)
    obtain ⟨-, hfolded⟩ := List.mem_filter.mp htable
    refine withRowCount_of_not_mem hcounts fun hname => ?_
    rw [decide_eq_true_iff, map_foldedName] at hfolded
    exact hfolded (List.mem_map_of_mem hname)
  unfold Snapshot.build
  dsimp only
  rw [isCountedMerge_iff policy hmodels, mergeAll_eq, withoutCounterpart_eq hmodels,
    List.map_append, hrest, List.append_left_inj, List.map_map, List.map_inj_left]
  exact forall₂_congr fun known hknown =>
    withRowCount_mergedAmong_iff hmodels hcatalog hcounts policy hknown

end Counts

def countedLibrary (counts : Keyed Int) : Snapshot :=
  Snapshot.build .model libraryModels libraryCatalog "sqlite" counts "library"

theorem distinctFolds_library :
    DistinctFolds (libraryModels.map (·.name)) ∧ DistinctFolds (libraryCatalog.map (·.name)) := by
  unfold DistinctFolds
  decide

/-- A count under another spelling than that of the model does no harm if the catalog knows it. -/
theorem isCountedMerge_library :
    ((DistinctFolds (libraryModels.map (·.name)) ∧
        DistinctFolds (libraryCatalog.map (·.name))) ∧
      Keyed.keys [("audit", (9 : Int)), ("LOANS", 3)] ⊆ libraryCatalog.map (·.name)) ∧
    IsCountedMerge .model libraryModels libraryCatalog [("audit", 9), ("LOANS", 3)]
      (countedLibrary [("audit", 9), ("LOANS", 3)]).tables ∧
    (countedLibrary [("audit", 9), ("LOANS", 3)]).tables.map (fun table =>
      (table.name, table.rowCount)) = [("audit", 9), ("Loans", 3), ("notes", 0)] := by
  obtain ⟨hmodels, hcatalog⟩ := distinctFolds_library
  have hcounts : Keyed.keys [("audit", (9 : Int)), ("LOANS", 3)]
      ⊆ libraryCatalog.map (·.name) := by decide
  have hcounted := isCountedMerge_build_iff hmodels hcatalog hcounts .model "sqlite" "library"
  exact ⟨⟨⟨hmodels, hcatalog⟩, hcounts⟩, hcounted.mpr (by decide), by decide⟩

/-- A count under the name in the catalog does not reach a model that spells it differently. -/
theorem not_isCountedMerge_library :
    (DistinctFolds (libraryModels.map (·.name)) ∧
      DistinctFolds (libraryCatalog.map (·.name))) ∧
    Keyed.keys [("LOANS", (5 : Int))] ⊆ libraryCatalog.map (·.name) ∧
    (countedLibrary [("LOANS", 5)]).tables.map (fun table => (table.name, table.rowCount))
      = [("audit", 7), ("Loans", 3), ("notes", 0)] ∧
    ¬ IsCountedMerge .model libraryModels libraryCatalog [("LOANS", 5)]
      (countedLibrary [("LOANS", 5)]).tables := by
  refine ⟨distinctFolds_library, by decide, by decide, ?_⟩
  rw [isCountedMerge_iff .model distinctFolds_library.1]
  decide

end Table

end RelSchema
