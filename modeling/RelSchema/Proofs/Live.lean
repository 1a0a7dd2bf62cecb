import RelSchema.Proofs.Catalog.Availability
import RelSchema.Proofs.Models.Declared
import RelSchema.Proofs.Models.Target
import RelSchema.Proofs.Schema.Merge

/-!
# Models beside a database

A snapshot for a profile holds each model with the structure that its source gives it, whether the
database can be read or not. If it cannot, the models stand alone. If it can, they are merged with
its tables, and since the columns of a source have their types, a merge fills in references only. A
database that lists its tables but describes one of them by faulty rows is the one that fails a
snapshot: the models do not stand in for it.
-/

namespace RelSchema

open Ddl (DistinctFolds)

/-- What may become of a column of a model: nothing, or it has no reference and takes over the one
that the column of its name has in a known table of the model's name. -/
inductive Column.KeptFrom (model : Table) (known : List Table) (column : Column) : Column → Prop
  | same : KeptFrom model known column column
  | referring {table : Table} {found : Column} (hunmarked : column.isForeignKey = false)
      (htable : table ∈ known) (hname : table.foldedName = model.foldedName)
      (hfound : found ∈ table.columns) (hcolumn : found.name = column.name)
      (hforeign : found.isForeignKey = true) :
      KeptFrom model known column { column with
        isForeignKey := true
        foreignTable := found.foreignTable
        foreignKey := found.foreignKey }

/-- Whether the table has the structure of the model, with references of known tables at most where
the model has none. -/
structure Table.Keeps (table model : Table) (known : List Table) : Prop where
  name_eq : table.name = model.name
  columns : List.Forall₂ (Column.KeptFrom model known) model.columns table.columns
  relations_eq : table.relations = model.relations
  primaryKeys_eq : table.primaryKeys = model.primaryKeys

theorem Column.fillFrom_of_type_ne {column found : Column} (htype : column.type ≠ "") :
    column.fillFrom found = if !column.isForeignKey && found.isForeignKey then
      { column with
        isForeignKey := true
        foreignTable := found.foreignTable
        foreignKey := found.foreignKey }
      else column := by
  have htyped : (if column.type == "" then { column with type := found.type } else column)
      = column := if_neg (by simpa using htype)
  unfold fillFrom
  rw [htyped]

namespace Table

variable {model catalog : Table} {known : List Table}

theorem keeps_self (model : Table) (known : List Table) : model.Keeps model known :=
  ⟨rfl, List.forall₂_same.mpr fun _ _ => .same, rfl, rfl⟩

theorem keptFrom_filledAmong {column : Column} (hcatalog : catalog ∈ known)
    (hname : catalog.foldedName = model.foldedName) (htype : column.type ≠ "") :
    column.KeptFrom model known (column.filledAmong catalog.columns) := by
  unfold Column.filledAmong
  split
  · next found hfound =>
      rw [Column.fillFrom_of_type_ne htype]
      split_ifs with hforeign
      · obtain ⟨hunmarked, hforeign⟩ := Bool.and_eq_true_iff.mp hforeign
        exact .referring (by simpa using hunmarked) hcatalog hname
          (List.mem_reverse.mp (List.mem_of_find?_eq_some hfound))
          (beq_iff_eq.mp (List.find?_some
            (p := fun other : Column => other.name == column.name) hfound)) hforeign
      · exact .same
  · exact .same

/-- A merge under which the models decide keeps a model whose columns have types. -/
theorem keeps_merge (htypes : ∀ column ∈ model.columns, column.type ≠ "")
    (hcatalog : catalog ∈ known) (hname : catalog.foldedName = model.foldedName) :
    (merge .model model catalog).Keeps model known where
  name_eq := rfl
  columns := by
    rw [merge_eq, addedTo, List.append_nil, List.forall₂_map_right_iff, List.forall₂_same]
    exact fun column hcolumn => keptFrom_filledAmong hcatalog hname (htypes column hcolumn)
  relations_eq := rfl
  primaryKeys_eq := rfl

theorem exists_keeps_mergeAll {models : List Table} (hmodels : DistinctFolds (models.map (·.name)))
    (htypes : ∀ model ∈ models, ∀ column ∈ model.columns, column.type ≠ "")
    (known : List Table) : ∀ model ∈ models,
      ∃ table ∈ mergeAll .model models known, table.Keeps model known := by
  intro model hmodel
  rcases mem_mergeAll_of_mem .model hmodels known hmodel with
    hmem | ⟨catalog, hcatalog, hname, hmem⟩
  · exact ⟨model, hmem, keeps_self model known⟩
  · exact ⟨_, hmem, keeps_merge (htypes model hmodel) hcatalog hname⟩

/-- Among tables of distinct names, the one that keeps a model is the only one of its name. -/
theorem Keeps.filter_eq {table : Table} {tables : List Table} (h : table.Keeps model known)
    (hdistinct : DistinctFolds (tables.map (·.name))) (hmem : table ∈ tables) :
    tables.filter (·.foldedName = model.foldedName) = [table] := by
  have hname : table.foldedName = model.foldedName := congrArg Text.fold h.name_eq
  rw [← hname]
  exact filter_eq_singleton_of_nodup (map_foldedName tables ▸ hdistinct) hmem

end Table

theorem declaredSqlType_ne_empty (type : String) (dialect : Dialect) :
    declaredSqlType type dialect ≠ "" := by
  unfold declaredSqlType
  cases Scalar.ofReference? type with
  | none => exact (by decide : ("TEXT" : String) ≠ "")
  | some scalar => cases scalar <;> cases dialect <;> decide

theorem Models.type_ne_of_parse {source tag : String} {dialect : Dialect} {tables : List Table}
    (h : parse source dialect tag = .ok tables) :
    ∀ table ∈ tables, ∀ column ∈ table.columns, column.type ≠ "" := by
  intro table htable column hcolumn
  obtain ⟨type, -, htype, -⟩ := (declaredTable_of_parse h table htable).columns column hcolumn
  rw [htype]
  exact declaredSqlType_ne_empty type dialect

namespace Config

variable {config : Config} {surroundings : Surroundings} {name modelsFile : Option String}
  {start : String} {profile : Profile} {url : Url} {models : List Table}

theorem exists_parse_of_modelTables {files : Files} {dialect : Dialect}
    (h : config.modelTables files modelsFile dialect = .ok models) (hne : models ≠ []) :
    ∃ source, Models.parse source dialect config.settings.tag = .ok models := by
  unfold modelTables at h
  split at h
  · cases h
    exact absurd rfl hne
  · obtain ⟨source, -, hparse⟩ := bind_eq_ok_iff.mp h
    exact ⟨source, hparse⟩

/-- What is settled before the database is asked: the profile, an address that can be read, and
models of distinct names. -/
structure Prepared (config : Config) (surroundings : Surroundings)
    (name modelsFile : Option String) (start : String) (profile : Profile) (url : Url)
    (models : List Table) : Prop where
  profile_eq : ∃ chosen, activeProfile (.ok config) surroundings.environment name start
    = .ok (chosen, profile)
  url_eq : Url.normal profile.address = .ok url
  models_eq : config.modelTables surroundings.files modelsFile
    ((Dialect.ofName (some url.backend)).toOption.getD .sqlite) = .ok models
  models_ne : models ≠ []
  distinct : DistinctFolds (models.map (·.name))

theorem loadLive_eq
    (h : config.Prepared surroundings name modelsFile start profile url models)
    (policy : MergePolicy) : config.loadLive surroundings name modelsFile start policy =
      match config.inspectUnless surroundings.unlisted surroundings.catalog profile with
      | .ok snapshot => .ok { snapshot with
          tables := Table.mergeAll policy models snapshot.tables }
      | .error failure =>
        if failure.isUnavailable then
          .ok { tables := models
                driver := ((Dialect.ofName (some url.backend)).toOption.map Dialect.name).getD "" }
        else .error failure := by
  obtain ⟨chosen, hprofile⟩ := h.profile_eq
  have hdialect : addressDialect? profile.address
      = .ok (Dialect.ofName (some url.backend)).toOption := by
    rw [addressDialect?, h.url_eq]
  have hcounts : Table.withRowCount [] = id := funext fun _ => rfl
  have hsome : models.isEmpty = false := List.isEmpty_eq_false_iff.mpr h.models_ne
  unfold loadLive
  rw [hprofile]
  change (addressDialect? profile.address >>= _) = _
  rw [hdialect]
  change (config.modelTables _ _ _ >>= _) = _
  rw [h.models_eq]
  cases config.inspectUnless surroundings.unlisted surroundings.catalog profile with
  | ok snapshot =>
      change Except.ok (Snapshot.build policy models snapshot.tables _ [] _) = _
      rw [Snapshot.build, hcounts, List.map_id]
  | error failure =>
      change (if (models.isEmpty || !failure.isUnavailable) = true then _ else _) = _
      rw [hsome, Bool.false_or]
      change _ = if failure.isUnavailable = true then _ else _
      cases failure.isUnavailable <;> rfl

/-- The tables that the database of a profile tells of: none if it cannot be read. -/
def knownTables (config : Config) (surroundings : Surroundings) (profile : Profile) : List Table :=
  match config.inspectUnless surroundings.unlisted surroundings.catalog profile with
  | .ok snapshot => snapshot.tables
  | .error _ => []

section Prepared

variable (h : config.Prepared surroundings name modelsFile start profile url models)

include h

theorem loadLive_of_not_lists
    (hlists : ∀ dialect names, ¬ config.Lists surroundings url dialect names)
    (policy : MergePolicy) : ∃ snapshot : Snapshot,
      config.loadLive surroundings name modelsFile start policy = .ok snapshot ∧
        snapshot.tables = models := by
  obtain ⟨failure, hfailure, hunavailable⟩ := inspectUnless_of_not_lists h.url_eq hlists
  rw [loadLive_eq h, hfailure]
  exact ⟨_, if_pos hunavailable, rfl⟩

theorem loadLive_of_lists {dialect : Dialect} {names : List String}
    (hlists : config.Lists surroundings url dialect names)
    (htargets : (config.inspection surroundings.catalog url).NamesTargets dialect names)
    (policy : MergePolicy) : ∃ snapshot : Snapshot,
      config.loadLive surroundings name modelsFile start policy = .ok snapshot ∧
        snapshot.tables = Table.mergeAll policy models (config.knownTables surroundings profile) ∧
        (config.knownTables surroundings profile).map (·.name)
          = names.filter (config.inspection surroundings.catalog url).isReadable ∧
        ∀ known ∈ config.knownTables surroundings profile, known.faults = [] := by
  rcases Inspection.snapshot_cases hlists.dialect_eq hlists.tableNames_eq with
    ⟨-, snapshot, hsnapshot, hnames, hfaults⟩ | ⟨hnameless, -⟩
  · rw [loadLive_eq h, knownTables, inspectUnless_of_lists h.url_eq hlists, hsnapshot]
    exact ⟨_, rfl, rfl, hnames, hfaults⟩
  · exact absurd htargets hnameless

theorem loadLive_of_nameless {dialect : Dialect} {names : List String}
    (hlists : config.Lists surroundings url dialect names)
    (htargets : ¬ (config.inspection surroundings.catalog url).NamesTargets dialect names)
    (policy : MergePolicy) : ∃ failure,
      config.loadLive surroundings name modelsFile start policy = .error failure := by
  rcases Inspection.snapshot_cases hlists.dialect_eq hlists.tableNames_eq with
    ⟨hnamed, -⟩ | ⟨-, failure, hfailure, hunavailable⟩
  · exact absurd hnamed htargets
  · refine ⟨failure, ?_⟩
    rw [loadLive_eq h, inspectUnless_of_lists h.url_eq hlists, hfailure]
    exact if_neg (by simp [hunavailable])

theorem exists_loadLive_iff (policy : MergePolicy) :
    (∃ snapshot, config.loadLive surroundings name modelsFile start policy = .ok snapshot) ↔
      ∀ dialect names, config.Lists surroundings url dialect names →
        (config.inspection surroundings.catalog url).NamesTargets dialect names := by
  constructor
  · rintro ⟨snapshot, hsnapshot⟩ dialect names hlists
    by_contra htargets
    obtain ⟨failure, hfailure⟩ := loadLive_of_nameless h hlists htargets policy
    rw [hfailure] at hsnapshot
    cases hsnapshot
  · intro htargets
    by_cases hlists : ∃ dialect names, config.Lists surroundings url dialect names
    · obtain ⟨dialect, names, hlists⟩ := hlists
      obtain ⟨snapshot, hsnapshot, -⟩ :=
        loadLive_of_lists h hlists (htargets dialect names hlists) policy
      exact ⟨snapshot, hsnapshot⟩
    · push Not at hlists
      obtain ⟨snapshot, hsnapshot, -⟩ := loadLive_of_not_lists h hlists policy
      exact ⟨snapshot, hsnapshot⟩

/-- A snapshot holds the models alone, or merged with tables of distinct names. -/
theorem tables_of_loadLive (hcatalog : DistinctFolds surroundings.catalog.tables)
    {policy : MergePolicy} {snapshot : Snapshot}
    (hsnapshot : config.loadLive surroundings name modelsFile start policy = .ok snapshot) :
    snapshot.tables = models ∨
      snapshot.tables = Table.mergeAll policy models (config.knownTables surroundings profile) ∧
      DistinctFolds ((config.knownTables surroundings profile).map (·.name)) ∧
      ∀ known ∈ config.knownTables surroundings profile, known.faults = [] := by
  by_cases hlists : ∃ dialect names, config.Lists surroundings url dialect names
  · obtain ⟨dialect, names, hlists⟩ := hlists
    have htargets := (exists_loadLive_iff h policy).mp ⟨snapshot, hsnapshot⟩ dialect names hlists
    obtain ⟨merged, hmerged, htables, hnames, hfaults⟩ :=
      loadLive_of_lists h hlists htargets policy
    obtain rfl := Except.ok.inj (hmerged.symm.trans hsnapshot)
    refine Or.inr ⟨htables, ?_, hfaults⟩
    rw [hnames]
    have hlisted := Inspection.tableNames_sublist hlists.tableNames_eq
    exact hcatalog.sublist ((List.filter_sublist.trans hlisted).map _)
  · push Not at hlists
    obtain ⟨alone, halone, htables⟩ := loadLive_of_not_lists h hlists policy
    obtain rfl := Except.ok.inj (halone.symm.trans hsnapshot)
    exact Or.inl htables

end Prepared

/-- Under authoritative models a snapshot is taken exactly if the database lists no tables or the
rows of the readable ones name what they refer to. Whether the database was read or not, each model
is then in the snapshot, once and with its structure. -/
theorem loadLive_keeps_models
    (h : config.Prepared surroundings name modelsFile start profile url models)
    (hcatalog : DistinctFolds surroundings.catalog.tables) :
    ((∃ snapshot, config.loadLive surroundings name modelsFile start .model = .ok snapshot) ↔
      ∀ dialect names, config.Lists surroundings url dialect names →
        (config.inspection surroundings.catalog url).NamesTargets dialect names) ∧
    ∀ snapshot, config.loadLive surroundings name modelsFile start .model = .ok snapshot →
      (∀ table ∈ snapshot.tables, table.faults = []) ∧
      ∀ model ∈ models, ∃ table,
        snapshot.tables.filter (·.foldedName = model.foldedName) = [table] ∧
          table.Keeps model (config.knownTables surroundings profile) := by
  refine ⟨exists_loadLive_iff h .model, fun snapshot hsnapshot => ?_⟩
  obtain ⟨source, hparse⟩ := exists_parse_of_modelTables h.models_eq h.models_ne
  have hfaults := Models.faults_of_parse hparse
  rcases tables_of_loadLive h hcatalog hsnapshot with htables | ⟨htables, hdistinct, hknown⟩
  · rw [htables]
    exact ⟨hfaults, fun model hmodel => ⟨model,
      (Table.keeps_self model []).filter_eq h.distinct hmodel, Table.keeps_self model _⟩⟩
  · rw [htables]
    refine ⟨Table.faults_mergeAll .model hfaults hknown, fun model hmodel => ?_⟩
    obtain ⟨table, htable, hkeeps⟩ := Table.exists_keeps_mergeAll h.distinct
      (Models.type_ne_of_parse hparse) _ model hmodel
    have hmerged := Table.distinctFolds_mergeAll .model h.distinct hdistinct
    exact ⟨table, hkeeps.filter_eq hmerged htable, hkeeps⟩

/-- Models of a blog, with the address of its database. -/
def blog : Config where
  profiles := [("local", { url := "sqlite:///blog.db" })]
  settings := { modelsFile := some "models.txt" }

def blogUrl : Url where
  scheme := "sqlite"
  database := some "blog.db"

def blogSource : String :=
  "type User struct \x7b\n\tID uint\n\tName string\n\x7d\n" ++
    "type Post struct \x7b\n\tID uint\n\tAuthorID uint\n\x7d\n"

def blogFiles : Files := [("models.txt", blogSource)]

def blogModels : List Table := [
  { name := "users"
    columns := [{ name := "id", type := "INTEGER", declaredType := some "uint" },
      { name := "name", type := "TEXT", declaredType := some "string" }] },
  { name := "posts"
    columns := [{ name := "id", type := "INTEGER", declaredType := some "uint" },
      { name := "author_id", type := "INTEGER", declaredType := some "uint" }] }]

/-- One table refers to the table of the given name, one cannot be read, and one is no model. -/
def blogSurroundings (table : String) : Surroundings where
  files := blogFiles
  here := "/"
  catalog := {
    tables := ["POSTS", "users", "logs"]
    columns := [("POSTS", [.ofFlags "author_id" (some "BIGINT") (.int 1) .null 0])]
    keys := [("POSTS", [{ column := "author_id", table := some table, target := some "id" }])]
    failing := ["users"] }

theorem modelTables_blog : blog.modelTables blogFiles none .sqlite = .ok blogModels := by
  have hplain : "models.txt".contains '\x00' = false := by simp
  have hread : blogFiles.read "models.txt" = .ok blogSource := by
    -- whether the path holds a character is not decided by evaluation
    unfold Files.read Files.text Files.place
    rw [hplain]
    decide +kernel
  change (blogFiles.read "models.txt" >>= _) = _
  rw [hread]
  decide +kernel

theorem prepared_blog (table : String) :
    blog.Prepared (blogSurroundings table) (some "local") none "" { url := "sqlite:///blog.db" }
      blogUrl blogModels where
  profile_eq := ⟨"local", rfl⟩
  url_eq := by decide +kernel
  models_eq := modelTables_blog
  models_ne := by decide
  distinct := by unfold DistinctFolds; decide +kernel

theorem loadLive_keeps_models_blog :
    blog.Prepared (blogSurroundings "people") (some "local") none "" { url := "sqlite:///blog.db" }
      blogUrl blogModels ∧
    DistinctFolds (blogSurroundings "people").catalog.tables ∧ ∃ snapshot,
      blog.loadLive (blogSurroundings "people") (some "local") none "" .model = .ok snapshot ∧
      ∀ model ∈ blogModels, ∃ table,
        snapshot.tables.filter (·.foldedName = model.foldedName) = [table] ∧ table.Keeps model
          (blog.knownTables (blogSurroundings "people") { url := "sqlite:///blog.db" }) := by
  have hcatalog : DistinctFolds (blogSurroundings "people").catalog.tables := by
    unfold DistinctFolds
    decide +kernel
  obtain ⟨htaken, hkept⟩ := loadLive_keeps_models (prepared_blog "people") hcatalog
  have hlisted : (blog.inspection (blogSurroundings "people").catalog blogUrl).tableNames
      = .ok ["POSTS", "users", "logs"] := by decide +kernel
  have htargets : ∀ dialect names, blog.Lists (blogSurroundings "people") blogUrl dialect names →
      (blog.inspection (blogSurroundings "people").catalog blogUrl).NamesTargets dialect names := by
    intro dialect names hlists
    obtain rfl := Except.ok.inj (hlisted.symm.trans hlists.tableNames_eq)
    unfold Inspection.NamesTargets
    cases dialect <;> decide +kernel
  obtain ⟨snapshot, hsnapshot⟩ := htaken.mpr htargets
  exact ⟨prepared_blog "people", hcatalog, snapshot, hsnapshot, (hkept snapshot hsnapshot).2⟩

/-- A reference to a table of the empty name fails the snapshot, and the models with it. -/
theorem loadLive_fails_blog :
    blog.Prepared (blogSurroundings "") (some "local") none "" { url := "sqlite:///blog.db" }
      blogUrl blogModels ∧
    DistinctFolds (blogSurroundings "").catalog.tables ∧
    blog.loadLive (blogSurroundings "") (some "local") none "" .model
      = .error (.invalid "TableInfo" [⟨[.field "columns", .index 0], .violated
        ("Column 'author_id': is_foreign_key requires foreign_table " ++
          "(and foreign_table requires is_foreign_key)")⟩]) := by
  refine ⟨prepared_blog "", ?_, ?_⟩
  · unfold DistinctFolds
    decide +kernel
  · rw [loadLive_eq (prepared_blog "")]
    decide +kernel

end Config

end RelSchema
