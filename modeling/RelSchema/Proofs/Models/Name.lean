import Mathlib.Data.List.Nodup
import RelSchema.Proofs.Models.Linked
import RelSchema.Proofs.Models.Reread
import RelSchema.Proofs.Naming.Snake

/-!
# Names in model sources

A structure is named for the singular of its table, a field for its column or relation. Such names
are distinct if the letters of the original names are. The tag of a relation names the field of its
foreign key. Where the structure has that field, its column is the key that is read; otherwise the
key is the name of the field in snake case, which is the original one unless two acronyms are
neighbours in it.
-/

namespace RelSchema.Models

/-- Whether a text declares a structure with fields of the given names, a line for each of them. -/
def Declares (text name : String) (fields : List String) : Prop :=
  ∃ rests : List String, rests.length = fields.length ∧
    text = "type " ++ name ++ " struct \x7b\n" ++
      String.join (List.zipWith (fun field rest => "\t" ++ field ++ " " ++ rest ++ "\n") fields
        rests) ++ "\x7d\n"

def structNames (tables : List Table) : List String :=
  tables.map fun table => structName table.name

def singularNames (tables : List Table) : List String :=
  tables.map fun table => Naming.singularize table.name

def memberNames (table : Table) : List String :=
  table.columns.map (·.name) ++ table.relations.map (·.name)

def fieldNames (table : Table) : List String :=
  (memberNames table).map Naming.toPascalCase

/-- Whether no two names are the same in upper case. -/
def DistinctCapitals (names : List String) : Prop :=
  (names.map Text.upper).Nodup

/-- How the names of declarations tell apart the names they are made from: they are distinct if
these are without their underscores and up to case, and only then if case is not to count; made from
names of small words they are distinct if and only if these are. -/
structure TellsApart (declared names : List String) : Prop where
  nodup : DistinctCapitals (names.map Naming.joined) → declared.Nodup
  distinct_iff : DistinctCapitals declared ↔ DistinctCapitals (names.map Naming.joined)
  nodup_iff : (∀ name ∈ names, Naming.IsSnakeCase name) → (declared.Nodup ↔ names.Nodup)

theorem declares_renderTable (table : Table) :
    Declares (renderTable table) (structName table.name) (fieldNames table) := by
  let columnRest (column : Column) : String :=
    fieldType column ++ " \x60" ++ columnTag column ++ " json:\"" ++ column.name ++ "\"\x60"
  let relationRest (relation : Relation) : String :=
    relationType relation ++ " \x60" ++ relationTag relation ++ "json:\"" ++
      Naming.toSnakeCase relation.name ++ ",omitempty\"\x60"
  have hcolumn : ∀ column, renderColumn column
      = "\t" ++ Naming.toPascalCase column.name ++ " " ++ columnRest column ++ "\n" := by
    intro column
    apply String.toList_inj.mp
    simp [renderColumn, columnRest]
  have hrelation : ∀ relation, renderRelation relation
      = "\t" ++ Naming.toPascalCase relation.name ++ " " ++ relationRest relation ++ "\n" := by
    intro relation
    apply String.toList_inj.mp
    simp [renderRelation, relationRest]
  refine ⟨table.columns.map columnRest ++ table.relations.map relationRest, ?_, ?_⟩
  · simp [fieldNames, memberNames]
  · rw [renderTable, fieldNames, memberNames, List.map_append, List.map_map, List.map_map,
      List.zipWith_append (by simp), List.zipWith_map, List.zipWith_map, List.zipWith_self,
      List.zipWith_self, List.map_congr_left fun column _ => hcolumn column,
      List.map_congr_left fun relation _ => hrelation relation]
    rfl

theorem tellsApart_toPascalCase (names : List String) :
    TellsApart (names.map Naming.toPascalCase) names := by
  have hupper : (names.map Naming.toPascalCase).map Text.upper
      = (names.map Naming.joined).map Text.upper := by
    rw [List.map_map, List.map_map]
    exact List.map_congr_left fun name _ => Naming.upper_toPascalCase name
  have hiff : DistinctCapitals (names.map Naming.toPascalCase) ↔
      DistinctCapitals (names.map Naming.joined) := by
    rw [DistinctCapitals, DistinctCapitals, hupper]
  refine ⟨fun h => List.Nodup.of_map Text.upper (hiff.mpr h), hiff, fun hsnake => ?_⟩
  constructor
  · exact List.Nodup.of_map Naming.toPascalCase
  · intro hnodup
    refine hnodup.map_on fun name hname other hother => ?_
    exact Naming.toPascalCase_injective (hsnake name hname) (hsnake other hother)

/-- Structures and their fields have distinct names as far as the names that they are made from are
told apart by their letters. -/
theorem declared_names_apart (tables : List Table) (package : String) :
    (∃ header, render tables package
        = header ++ Text.joinWith "\n" (tables.map renderTable)) ∧
      (∀ table ∈ tables, Declares (renderTable table) (structName table.name) (fieldNames table)) ∧
      TellsApart (structNames tables) (singularNames tables) ∧
      ∀ table ∈ tables, TellsApart (fieldNames table) (memberNames table) := by
  have hstructs : structNames tables = (singularNames tables).map Naming.toPascalCase := by
    rw [structNames, singularNames, List.map_map]
    rfl
  refine ⟨⟨_, rfl⟩, fun table _ => declares_renderTable table, ?_, fun table _ =>
    tellsApart_toPascalCase (memberNames table)⟩
  rw [hstructs]
  exact tellsApart_toPascalCase (singularNames tables)

/-- Tables whose names, and the names of whose columns, are distinct up to case. -/
def clashing : List Table := [
  { name := "user" },
  { name := "users"
    columns := [{ name := "id", type := "INTEGER" }, { name := "_id", type := "INTEGER" }] }]

theorem declared_names_clash :
    (clashing.map fun table => Text.fold table.name).Nodup ∧
      (∀ table ∈ clashing, (table.columns.map fun column => Text.fold column.name).Nodup) ∧
      ¬ (structNames clashing).Nodup ∧ ∃ table ∈ clashing, ¬ (fieldNames table).Nodup := by
  decide +kernel

/-- How the field for a relation is read in a structure where the field for its key, if there is
one, has the column `own?`. A list and a field without such a column have the key that the letters
of the tag spell. -/
structure KeyReread (own? : Option String) (relation read : Relation) : Prop where
  toMany : relation.kind = .hasMany → read.kind = .hasMany ∧
    (read.foreignKey = relation.foreignKey ↔ Naming.AcronymsApart relation.foreignKey)
  here : relation.kind = .hasOne ∨ relation.kind = .belongsTo → ∀ column ∈ own?,
    read.kind = .belongsTo ∧ read.foreignKey = column
  elsewhere : relation.kind = .hasOne ∨ relation.kind = .belongsTo → own? = none →
    read.kind = .hasOne ∧
      (read.foreignKey = relation.foreignKey ↔ Naming.AcronymsApart relation.foreignKey)

/-- How the relations of a table with a given key are read, in order, in the structure for the
table. -/
def KeysReread (key : String) (table : Table) (read : List Relation) : Prop :=
  List.Forall₂ (fun relation found => relation.kind ≠ .manyToMany → relation.foreignKey = key →
    KeyReread (ownColumn? table key) relation found) table.relations read

theorem keyReread_relationBack {relation : Relation} (hname : Naming.IsSnakeCase relation.foreignKey)
    (own? : Option String) : KeyReread own? relation (relationBack own? relation) where
  toMany := by
    intro hkind
    simp only [relationBack, hkind, true_and]
    exact Naming.toSnakeCase_toPascalCase_iff hname
  here := by
    rintro hkind column ⟨⟩
    rcases hkind with hkind | hkind
    all_goals simp only [relationBack, hkind, and_self]
  elsewhere := by
    rintro hkind ⟨⟩
    rcases hkind with hkind | hkind
    all_goals
      simp only [relationBack, hkind, true_and]
      exact Naming.toSnakeCase_toPascalCase_iff hname

theorem keysReread_rereadTable {name : String} (hname : Naming.IsSnakeCase name) (dialect : Dialect)
    (table : Table) : KeysReread name table (rereadTable dialect table).relations := by
  rw [KeysReread, rereadTable, List.forall₂_map_right_iff, List.forall₂_same]
  rintro relation - - rfl
  exact keyReread_relationBack hname _

/-- Columns named by small words have fields of different names, so the field of a key is that of
the column with its name. -/
theorem ownColumn?_eq_some_iff {name : String} (hname : Naming.IsSnakeCase name) {table : Table}
    (hcolumns : ∀ column ∈ table.columns, Naming.IsSnakeCase column.name) {column : String} :
    ownColumn? table name = some column ↔
      column = name ∧ ∃ own ∈ table.columns, own.name = name := by
  have hfinds (own : Column) (hfind : table.columns.find?
      (Naming.toPascalCase ·.name == Naming.toPascalCase name) = some own) :
      own ∈ table.columns ∧ own.name = name := by
    have hmem := List.mem_of_find?_eq_some hfind
    have hfield : Naming.toPascalCase own.name = Naming.toPascalCase name := by
      simpa using List.find?_some hfind
    exact ⟨hmem, Naming.toPascalCase_injective (hcolumns own hmem) hname hfield⟩
  rw [ownColumn?, Option.map_eq_some_iff]
  constructor
  · rintro ⟨own, hfind, rfl⟩
    obtain ⟨hmem, hsame⟩ := hfinds own hfind
    exact ⟨hsame, own, hmem, hsame⟩
  · rintro ⟨rfl, own, hmem, hsame⟩
    have hsome : (table.columns.find?
        (Naming.toPascalCase ·.name == Naming.toPascalCase column)).isSome :=
      List.find?_isSome.mpr ⟨own, hmem, beq_iff_eq.mpr (congrArg Naming.toPascalCase hsame)⟩
    obtain ⟨found, hfind⟩ := Option.isSome_iff_exists.mp hsome
    exact ⟨found, hfind, (hfinds found hfind).2⟩

/-- A key of small words is read back from its tag exactly if no two acronyms are neighbours in it,
unless the structure itself has a field for it. Then the column of that field is the key. -/
theorem foreign_key_reread {name : String} (hname : Naming.IsSnakeCase name) :
    (Naming.toSnakeCase (Naming.toPascalCase name) = name ↔ Naming.AcronymsApart name) ∧
    (∀ relation, WritableRelation relation → relation.kind ≠ .manyToMany →
      relation.foreignKey = name →
      ∃ line field, (renderRelation relation).toList = line ++ ['\n'] ∧
        readField? "gorm" line = some field ∧
        ∀ owner, ∃ read, relationOf owner field = .ok read ∧
          KeyReread (owner.columnFor? (Naming.toPascalCase name)) relation read) ∧
    (∀ dialect tables, (∀ table ∈ tables, WritableTable table) →
      ∃ read, parse (render tables "models") dialect "gorm" = .ok read ∧
        List.Forall₂ (KeysReread name) tables (read.map (·.relations))) ∧
    ∀ table : Table, (∀ column ∈ table.columns, Naming.IsSnakeCase column.name) →
      ∀ column, ownColumn? table name = some column ↔
        column = name ∧ ∃ own ∈ table.columns, own.name = name := by
  refine ⟨Naming.toSnakeCase_toPascalCase_iff hname, ?_, ?_, ?_⟩
  · rintro relation hrelation - rfl
    refine ⟨_, _, hrelation.toList_renderRelation, hrelation.legible_relationText.readField?_line _,
      fun owner => ⟨_, hrelation.relationOf_relationText owner, ?_⟩⟩
    exact keyReread_relationBack hname _
  · intro dialect tables htables
    refine ⟨_, parse_render dialect htables, ?_⟩
    rw [map_markTargets_eq fun _ _ _ _ => rfl, List.map_map, List.forall₂_map_right_iff,
      List.forall₂_same]
    exact fun table _ => keysReread_rereadTable hname dialect table
  · exact fun table hcolumns column => ownColumn?_eq_some_iff hname hcolumns

def serverJobs : Relation where
  name := "jobs"
  kind := .hasMany
  table := "jobs"
  foreignKey := "http_server_id"

def jobServer : Relation where
  name := "server"
  kind := .belongsTo
  table := "servers"
  foreignKey := "http_server_id"

/-- Servers with jobs, which have the key themselves. -/
def servers : List Table := [
  { name := "servers", columns := [{ name := "id", type := "INTEGER" }], relations := [serverJobs] },
  { name := "jobs"
    columns := [{ name := "http_server_id", type := "INTEGER" }]
    relations := [jobServer] }]

theorem foreign_key_reread_server :
    Naming.toSnakeCase (Naming.toPascalCase "http_server_id") = "http_server_id" ∧
    (∃ line field, (renderRelation serverJobs).toList = line ++ ['\n'] ∧
      readField? "gorm" line = some field ∧
      ∀ owner, ∃ read, relationOf owner field = .ok read ∧
        KeyReread (owner.columnFor? (Naming.toPascalCase "http_server_id")) serverJobs read) ∧
    (∃ read, parse (render servers "models") .sqlite "gorm" = .ok read ∧
      List.Forall₂ (KeysReread "http_server_id") servers (read.map (·.relations))) ∧
    ∀ table ∈ servers, ∀ column, ownColumn? table "http_server_id" = some column ↔
      column = "http_server_id" ∧ ∃ own ∈ table.columns, own.name = "http_server_id" := by
  have hname : Naming.IsSnakeCase "http_server_id" := by decide
  have hapart : Naming.AcronymsApart "http_server_id" := by decide
  have hservers : ∀ table ∈ servers, WritableTable table := by decide
  have hcolumns : ∀ table ∈ servers, ∀ column ∈ table.columns, Naming.IsSnakeCase column.name := by
    decide
  obtain ⟨hsame, hfield, hsource, hown⟩ := foreign_key_reread hname
  exact ⟨hsame.mpr hapart, hfield serverJobs (by decide) (by decide) rfl,
    hsource .sqlite servers hservers, fun table htable => hown table (hcolumns table htable)⟩

theorem foreign_key_reread_acronyms :
    Naming.IsSnakeCase "id_url" ∧
      Naming.toSnakeCase (Naming.toPascalCase "id_url") ≠ "id_url" := by
  decide

end RelSchema.Models
