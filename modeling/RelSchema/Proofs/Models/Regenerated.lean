import RelSchema.Proofs.Models.Declared
import RelSchema.Proofs.Models.Linked
import RelSchema.Proofs.Models.Reread

/-!
# Relations through a regenerated source

The field for a relation names its target structure and one key. Which column of the target the key
refers to, and on which side the key lies, are inferred again when the field is read. The references
of a source survive its regeneration exactly if this inference gives every relation back.
-/

namespace RelSchema.Models

/-- Whether a relation of a table is the one that is inferred from its field. -/
@[mk_iff]
structure Restorable (table : Table) (relation : Relation) : Prop where
  target : tableNameFor (structName relation.table) = relation.table
  reference : relation.referenceKey = "id"
  /-- The field says nothing of a key behind the table in between. -/
  through : relation.kind = .manyToMany → relation.foreignKey = ""
  key : relation.kind = .hasMany ∨ relation.kind = .hasOne →
    Naming.toSnakeCase (Naming.toPascalCase relation.foreignKey) = relation.foreignKey
  /-- A column of this table with the name of the key would make the relation belong to its
  target. -/
  elsewhere : relation.kind = .hasOne → ∀ column ∈ table.columns,
    Naming.toPascalCase column.name ≠ Naming.toPascalCase relation.foreignKey
  here : relation.kind = .belongsTo →
    (table.columns.find? (Naming.toPascalCase ·.name == Naming.toPascalCase relation.foreignKey)).map
      (·.name) = some relation.foreignKey

instance (table : Table) (relation : Relation) : Decidable (Restorable table relation) :=
  decidable_of_iff _ (restorable_iff table relation).symm

theorem unnamed_rereadRelation_iff {table : Table} {relation : Relation}
    (hjoin : relation.kind ≠ .manyToMany → relation.joinTable = none) :
    (rereadRelation table relation).unnamed = relation.unnamed ↔ Restorable table relation := by
  have hid : "id" = relation.referenceKey ↔ relation.referenceKey = "id" := eq_comm
  rw [restorable_iff]
  simp only [rereadRelation, relationBack, ownColumn?, Relation.unnamed]
  -- the conversions are arbitrary from here on
  generalize Naming.toPascalCase = pascal, Naming.toSnakeCase = snake,
    tableNameFor (structName relation.table) = target
  cases hkind : relation.kind with
  | manyToMany => simp [hid, and_comm]
  | hasMany => simp [hkind, hjoin, hid, and_comm]
  | hasOne =>
      cases hcolumn : table.columns.find? (pascal ·.name == pascal relation.foreignKey) with
      | some column =>
          have hmem := List.mem_of_find?_eq_some hcolumn
          have hname : pascal column.name = pascal relation.foreignKey := by
            simpa using List.find?_some hcolumn
          simp only [Option.map_some, Relation.mk.injEq, reduceCtorEq, false_and, and_false,
            false_iff]
          rintro ⟨-, -, -, -, helsewhere, -⟩
          exact helsewhere trivial column hmem hname
      | none =>
          have helsewhere : ∀ column ∈ table.columns,
              pascal column.name ≠ pascal relation.foreignKey := by
            simpa using hcolumn
          simp +contextual [hkind, hjoin, hid, and_comm, helsewhere]
  | belongsTo =>
      cases hcolumn : table.columns.find? (pascal ·.name == pascal relation.foreignKey) with
      | some column => simp [hkind, hjoin, hid, and_comm]
      | none => simp

/-- A table whose names can all stand in a source as they are. -/
@[mk_iff]
structure PlainNames (table : Table) : Prop where
  name_word : IsWord (structName table.name)
  columns : ∀ column ∈ table.columns,
    IsWord column.name ∧ IsWord (Naming.toPascalCase column.name)
  default_brace : ∀ column ∈ table.columns, ∀ value ∈ column.defaultValue,
    '\x7b' ∉ value.toList
  relations : ∀ relation ∈ table.relations, WritableRelation relation

instance (table : Table) : Decidable (PlainNames table) :=
  decidable_of_iff (IsWord (structName table.name) ∧
      (∀ column ∈ table.columns, IsWord column.name ∧ IsWord (Naming.toPascalCase column.name)) ∧
      (∀ column ∈ table.columns, ∀ value ∈ column.defaultValue, '\x7b' ∉ value.toList) ∧
      ∀ relation ∈ table.relations, WritableRelation relation)
    (plainNames_iff table).symm

variable {table : Table} {dialect : Dialect}

theorem size_declaredSqlType (type : String) (dialect : Dialect) :
    SqlType.size (declaredSqlType type dialect) = "" := by
  have htext : SqlType.size "TEXT" = "" := by decide
  unfold declaredSqlType
  cases Scalar.ofReference? type with
  | none => exact htext
  | some scalar => cases scalar <;> cases dialect <;> decide

theorem DeclaredTable.writable (h : DeclaredTable dialect table) (hplain : PlainNames table) :
    WritableTable table where
  name_word := hplain.name_word
  columns_ne := h.columns_ne
  columns := by
    intro column hcolumn
    obtain ⟨type, htype, hsql, hvalue, hchars, hdefault⟩ := h.columns column hcolumn
    have hfield : fieldType column = type := by
      unfold fieldType
      rw [htype]
      split
      · next hnone => cases hnone
      · next hempty => exact absurd (Option.some.inj hempty) (ne_empty_of_isRelationType hvalue)
      · next other _ hother => exact (Option.some.inj hother).symm
    obtain ⟨hname, hword⟩ := hplain.columns column hcolumn
    exact {
      name_word := hname
      field_word := hword
      type_ne := hfield ▸ ne_empty_of_isRelationType hvalue
      type_char := hfield ▸ hchars
      type_value := hfield ▸ hvalue
      size_verbatim := by
        rw [hsql, size_declaredSqlType]
        exact List.forall_mem_nil _
      default_char := by
        intro value hgiven c hc
        obtain ⟨haccent, hbreak⟩ := hdefault value hgiven c hc
        refine isTagChar_iff.mpr ⟨haccent, ?_, hbreak⟩
        rintro rfl
        exact hplain.default_brace column hcolumn value hgiven hc }
  relations := hplain.relations

/-- A table keeps its outline exactly if it keeps its relations. -/
theorem outline_rereadTable_iff (dialect : Dialect)
    (hname : tableNameFor (structName table.name) = table.name) :
    (rereadTable dialect table).outline = table.outline ↔
      ∀ relation ∈ table.relations, (rereadRelation table relation).unnamed = relation.unnamed := by
  have hbare : (table.columns.map (rereadColumn dialect)).map Column.bare
      = table.columns.map Column.bare := by
    rw [List.map_map]
    exact List.map_congr_left fun column _ => rfl
  simp only [Table.outline, rereadTable, map_bare_foldl_markLocal, hbare, hname, List.map_map,
    Table.mk.injEq, true_and, and_true, List.map_inj_left, Function.comp_apply]

/-- The references of a source survive its regeneration exactly if all its relations are those that
are inferred from their fields. -/
theorem regenerates_iff {source : String} {tables : List Table}
    (h : parse source dialect "gorm" = .ok tables)
    (hnames : ∀ table ∈ tables, tableNameFor (structName table.name) = table.name)
    (hplain : ∀ table ∈ tables, PlainNames table) :
    (∃ regenerated, parse (render tables "models") dialect "gorm" = .ok regenerated ∧
        regenerated.map Table.links = tables.map Table.links) ↔
      ∀ table ∈ tables, ∀ relation ∈ table.relations, Restorable table relation := by
  have hdeclared := declaredTable_of_parse h
  have hread := parse_render dialect fun table htable =>
    (hdeclared table htable).writable (hplain table htable)
  have hexists : (∃ regenerated, parse (render tables "models") dialect "gorm" = .ok regenerated ∧
        regenerated.map Table.links = tables.map Table.links) ↔
      (markTargets (tables.map (rereadTable dialect))).map Table.links
        = tables.map Table.links := by
    simp only [hread, Except.ok.injEq, exists_eq_left']
  -- references follow from outlines, and an outline comes back table by table
  rw [hexists, map_links_eq_iff h hread, map_outline_markTargets, List.map_map, List.map_inj_left]
  refine forall₂_congr fun table htable => ?_
  rw [Function.comp_apply, outline_rereadTable_iff dialect (hnames table htable)]
  exact forall₂_congr fun relation hrelation =>
    unnamed_rereadRelation_iff ((hdeclared table htable).joinTable_none relation hrelation)

def blogSource : String :=
  "type User struct \x7b\nID uint\nPosts []Post\nProfile Profile\n" ++
    "Tags []*Tag \x60gorm:\"many2many:user_tags\"\x60\n\x7d\n" ++
    "type Post struct \x7b\nUserID uint\nUser User\n\x7d\n"

def blog : List Table := [
  { name := "users"
    columns := [{ name := "id", type := "INTEGER", declaredType := some "uint" }]
    relations := [
      { name := "Posts", kind := .hasMany, table := "posts", foreignKey := "user_id",
        referenceKey := "id" },
      { name := "Profile", kind := .hasOne, table := "profiles", foreignKey := "user_id",
        referenceKey := "id" },
      { name := "Tags", kind := .manyToMany, table := "tags", referenceKey := "id",
        joinTable := some "user_tags" }] },
  { name := "posts"
    columns := [
      { name := "user_id", type := "INTEGER", declaredType := some "uint", isForeignKey := true,
        foreignTable := some "users", foreignKey := some "id" }]
    relations := [
      { name := "User", kind := .belongsTo, table := "users", foreignKey := "user_id",
        referenceKey := "id" }] }]

theorem regenerates_blog :
    (parse blogSource .sqlite "gorm" = .ok blog ∧
      (∀ table ∈ blog, tableNameFor (structName table.name) = table.name) ∧
      ∀ table ∈ blog, PlainNames table) ∧
    ∃ regenerated, parse (render blog "models") .sqlite "gorm" = .ok regenerated ∧
      regenerated.map Table.links = blog.map Table.links := by
  have hread : parse blogSource .sqlite "gorm" = .ok blog := by
    -- the kernel reads a list of characters at once, but not the encoding of a joined text
    unfold parse blogSource
    iterate 2 rw [String.toList_append]
    iterate 3 rw [String.toList_ofList]
    decide +kernel
  have hnames : ∀ table ∈ blog, tableNameFor (structName table.name) = table.name := by decide
  have hplain : ∀ table ∈ blog, PlainNames table := by decide
  have hrestorable : ∀ table ∈ blog, ∀ relation ∈ table.relations, Restorable table relation := by
    decide
  exact ⟨⟨hread, hnames, hplain⟩, (regenerates_iff hread hnames hplain).mpr hrestorable⟩

/-- A source whose users have a key of the same name as their profiles. -/
def accountsSource : String :=
  "type User struct \x7b\nUserID uint\nProfile Profile\n\x7d\n" ++
    "type Profile struct \x7b\nUserID uint\n\x7d\n"

def accounts : List Table := [
  { name := "users"
    columns := [{ name := "user_id", type := "INTEGER", declaredType := some "uint" }]
    relations := [
      { name := "Profile", kind := .hasOne, table := "profiles", foreignKey := "user_id",
        referenceKey := "id" }] },
  { name := "profiles"
    columns := [
      { name := "user_id", type := "INTEGER", declaredType := some "uint", isForeignKey := true,
        foreignTable := some "users", foreignKey := some "id" }] }]

/-- The same tables with users that belong to their profiles. -/
def turnedAccounts : List Table := [
  { name := "users"
    columns := [
      { name := "user_id", type := "INTEGER", declaredType := some "uint", isForeignKey := true,
        foreignTable := some "profiles", foreignKey := some "id" }]
    relations := [
      { name := "Profile", kind := .belongsTo, table := "profiles", foreignKey := "user_id",
        referenceKey := "id" }] },
  { name := "profiles"
    columns := [{ name := "user_id", type := "INTEGER", declaredType := some "uint" }] }]

theorem regenerated_accounts :
    parse accountsSource .sqlite "gorm" = .ok accounts ∧
    (accounts.map fun table => Text.fold table.name).Nodup ∧
    (∀ table ∈ accounts, tableNameFor (structName table.name) = table.name) ∧
    parse (render accounts "models") .sqlite "gorm" = .ok turnedAccounts ∧
    turnedAccounts.map Table.links ≠ accounts.map Table.links := by
  have hread : parse accountsSource .sqlite "gorm" = .ok accounts := by
    unfold parse accountsSource
    rw [String.toList_append, String.toList_ofList, String.toList_ofList]
    decide +kernel
  have hplain : ∀ table ∈ accounts, PlainNames table := by decide
  have hreread : markTargets (accounts.map (rereadTable .sqlite)) = turnedAccounts := by
    decide +kernel
  refine ⟨hread, by decide, by decide, ?_, by decide⟩
  rw [parse_render .sqlite fun table htable =>
    (declaredTable_of_parse hread table htable).writable (hplain table htable), hreread]

end RelSchema.Models
