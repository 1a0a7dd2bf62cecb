import RelSchema.Proofs.Models.Field
import RelSchema.Proofs.Models.Target

/-!
# Tables of rendered sources

A rendered source declares a structure for each of its tables, in order. What comes back of a column
and of a relation is written down here; the source itself is read as those tables.
-/

namespace RelSchema.Models

/-- Whether the structure for a table can be read back. -/
@[mk_iff]
structure WritableTable (table : Table) : Prop where
  name_word : IsWord (structName table.name)
  columns_ne : table.columns ≠ []
  columns : ∀ column ∈ table.columns, WritableColumn column
  relations : ∀ relation ∈ table.relations, WritableRelation relation

instance (table : Table) : Decidable (WritableTable table) :=
  decidable_of_iff _ (writableTable_iff table).symm

def tableText (table : Table) : StructText where
  name := (structName table.name).toList
  fields := table.columns.map columnText ++ table.relations.map relationText

@[simp]
theorem tableText_name (table : Table) :
    (tableText table).name = (structName table.name).toList := by
  rw [tableText]

@[simp]
theorem tableText_fields (table : Table) :
    (tableText table).fields
      = table.columns.map columnText ++ table.relations.map relationText := by
  rw [tableText]

/-- What stands in front of the structures. -/
def opening (tables : List Table) : List Char :=
  "package models\n\n".toList ++ (renderImports (imports tables)).toList

variable {table : Table}

theorem WritableTable.toList_renderTable (h : WritableTable table) :
    (renderTable table).toList = (tableText table).toList := by
  have hcolumns : (table.columns.map renderColumn).flatMap String.toList
      = (table.columns.map columnText).flatMap fun field => field.line ++ ['\n'] := by
    rw [List.flatMap_map, List.flatMap_map]
    exact List.flatMap_congr fun column hcolumn => (h.columns column hcolumn).toList_renderColumn
  have hrelations : (table.relations.map renderRelation).flatMap String.toList
      = (table.relations.map relationText).flatMap fun field => field.line ++ ['\n'] := by
    rw [List.flatMap_map, List.flatMap_map]
    exact List.flatMap_congr fun relation hrelation =>
      (h.relations relation hrelation).toList_renderRelation
  unfold renderTable tableText StructText.toList StructText.body header
  simp only [String.toList_append, String.toList_join, List.flatMap_append, hcolumns, hrelations]
  simp

theorem WritableTable.legible_tableText (h : WritableTable table) : (tableText table).Legible where
  name_ne := by simpa using h.name_word.1
  name_word := by simpa only [tableText_name] using h.name_word.2
  fields_ne := by simp [h.columns_ne]
  fields := by
    intro field hfield
    rw [tableText_fields] at hfield
    rcases List.mem_append.mp hfield with hfield | hfield
    · obtain ⟨column, hcolumn, rfl⟩ := List.mem_map.mp hfield
      exact (h.columns column hcolumn).legible_columnText
    · obtain ⟨relation, hrelation, rfl⟩ := List.mem_map.mp hfield
      exact (h.relations relation hrelation).legible_relationText

theorem toList_render {tables : List Table} (h : ∀ table ∈ tables, WritableTable table) :
    (render tables "models").toList
      = opening tables ++ ['\n'].intercalate ((tables.map tableText).map (·.toList)) := by
  have htables : (tables.map renderTable).map String.toList
      = (tables.map tableText).map (·.toList) := by
    rw [List.map_map, List.map_map]
    exact List.map_congr_left fun table htable => (h table htable).toList_renderTable
  unfold render opening
  rw [String.toList_append, String.toList_append, Text.joinWith, String.toList_intercalate, htables]
  simp

theorem imports_subset (tables : List Table) : imports tables ⊆ packages.map (·.2) := by
  intro path hpath
  obtain ⟨entry, hentry, rfl⟩ := List.mem_map.mp hpath
  exact List.mem_map_of_mem (List.mem_filter.mp hentry).1

def importLine (path : String) : List Char :=
  ['\t'] ++ ('"' :: path.toList ++ ['"']) ++ ['\n']

theorem toList_renderImports {paths : List String} (h : paths ≠ []) :
    (renderImports paths).toList
      = "import (\n".toList ++ paths.flatMap importLine ++ ')' :: ['\n', '\n'] := by
  have hlines : (paths.map fun path => "\t\"" ++ path ++ "\"\n").flatMap String.toList
      = paths.flatMap importLine := by
    rw [List.flatMap_map]
    exact List.flatMap_congr fun path _ => by simp [importLine]
  unfold renderImports
  rw [if_neg (by simpa using h), String.toList_append, String.toList_append, String.toList_join,
    hlines]
  simp

theorem calm_opening (tables : List Table) : Calm ['/'] (opening tables) := by
  have hpaths : ∀ path ∈ packages.map (·.2), '"' ∉ path.toList := by decide
  have hpackage : Calm ['/'] "package models\n\n".toList := Calm.of_any (by decide)
  refine hpackage.append ?_
  by_cases hnil : imports tables = []
  · rw [hnil]
    exact .nil
  · rw [toList_renderImports hnil]
    refine Calm.append (Calm.append (Calm.of_any (by decide)) (.flatMap fun path hpath => ?_))
      (Calm.of_any (by decide))
    exact Calm.append (Calm.append (Calm.of_any (by decide))
      (.enclosed (by decide) (hpaths path (imports_subset tables hpath)))) (Calm.of_any (by decide))

theorem headersFrom_opening (tables : List Table) (rest : List Char) :
    headersFrom 0 none (opening tables ++ rest) = headersFrom 0 (some '\n') rest := by
  have hpaths : ∀ path ∈ packages.map (·.2), '\x7b' ∉ importLine path := by decide
  have hpackage : 't' ∉ "package models\n\n".toList := by decide
  unfold opening
  rw [List.append_assoc, headersFrom_append_of_not_mem hpackage]
  by_cases hnil : imports tables = []
  · rw [hnil]
    rfl
  · have hbrace : '\x7b' ∉ "import (\n".toList ++ (imports tables).flatMap importLine := by
      intro hmem
      rcases List.mem_append.mp hmem with hmem | hmem
      · exact absurd hmem (by decide)
      · obtain ⟨path, hpath, hmem⟩ := List.mem_flatMap.mp hmem
        exact hpaths path (imports_subset tables hpath) hmem
    rw [toList_renderImports hnil, List.append_assoc, List.cons_append,
      headersFrom_append_of_barrier hbrace (by decide) (by decide),
      headersFrom_append_of_not_mem (by decide)]
    rfl

theorem declarations_render {tables : List Table} (h : ∀ table ∈ tables, WritableTable table) :
    declarations "gorm" (stripComments (render tables "models").toList)
      = tables.map fun table => (tableText table).declaration "gorm" := by
  have hlegible : ∀ text ∈ tables.map tableText, text.Legible := by
    intro text htext
    obtain ⟨table, htable, rfl⟩ := List.mem_map.mp htext
    exact (h table htable).legible_tableText
  rw [toList_render h, declarations_structs "gorm" (calm_opening tables)
    (headersFrom_opening tables) hlegible, List.map_map]
  rfl

/-- The column that is read back from the field for a column. -/
def rereadColumn (dialect : Dialect) (column : Column) : Column where
  name := column.name
  type := declaredSqlType (fieldType column) dialect
  declaredType := some (fieldType column)
  isPrimaryKey := column.isPrimaryKey
  isNullable := column.isNullable && !column.isPrimaryKey
  defaultValue := ((column.defaultValue.filter (· != "")).map readValue).filter (· != "")

/-- The column for the first field of a table that has the name in the tag of a key. -/
def ownColumn? (table : Table) (key : String) : Option String :=
  (table.columns.find? (Naming.toPascalCase ·.name == Naming.toPascalCase key)).map (·.name)

/-- The relation that is read back from the field for a relation. Where the structure has a field
with the name of the key itself, for the column `own?`, the relation belongs to its target. -/
def relationBack (own? : Option String) (relation : Relation) : Relation :=
  let name := Naming.toPascalCase relation.name
  let target := tableNameFor (structName relation.table)
  let keyField := Naming.toPascalCase relation.foreignKey
  match relation.kind with
  | .manyToMany =>
    { name, kind := .manyToMany, table := target, referenceKey := "id",
      joinTable := relation.joinTable }
  | .hasMany =>
    { name, kind := .hasMany, table := target, foreignKey := Naming.toSnakeCase keyField,
      referenceKey := "id" }
  | .hasOne | .belongsTo =>
    match own? with
    | some column =>
      { name, kind := .belongsTo, table := target, foreignKey := column, referenceKey := "id" }
    | none =>
      { name, kind := .hasOne, table := target, foreignKey := Naming.toSnakeCase keyField,
        referenceKey := "id" }

def rereadRelation (table : Table) (relation : Relation) : Relation :=
  relationBack (ownColumn? table relation.foreignKey) relation

/-- The table that is read back from the structure for a table. -/
def rereadTable (dialect : Dialect) (table : Table) : Table :=
  let relations := table.relations.map (rereadRelation table)
  let columns := relations.foldl markLocal (table.columns.map (rereadColumn dialect))
  { name := tableNameFor (structName table.name), columns, relations,
    primaryKeys := primaryKeyOrder columns [] }

theorem columnName_columnText {column : Column} (h : WritableColumn column) :
    ((columnText column).field "gorm").columnName = column.name := by
  rw [Field.columnName, Options.given?, h.options_columnText, (get?_columnEntries column).1,
    Option.filter_some, if_pos (by simpa using h.name_word.1)]
  rfl

theorem columnOf_columnText (dialect : Dialect) {column : Column} (h : WritableColumn column) :
    columnOf dialect ((columnText column).field "gorm") = rereadColumn dialect column := by
  obtain ⟨-, hkey, hkey', hrequired, hdefault⟩ := get?_columnEntries column
  simp only [columnOf, columnName_columnText h, type_field_columnText, h.options_columnText, hkey,
    hkey', hrequired, Options.given?, hdefault, rereadColumn]
  cases column.isPrimaryKey <;> cases column.isNullable <;> rfl

theorem map_field_tableText (table : Table) :
    (tableText table).fields.map (·.field "gorm")
      = (table.columns.map fun column => (columnText column).field "gorm") ++
        table.relations.map fun relation => (relationText relation).field "gorm" := by
  rw [tableText_fields, List.map_append, List.map_map, List.map_map]
  rfl

theorem targetOf?_eq_some {type word : String}
    (h : (Text.splitWhere (!Text.isWordChar ·) type.toList).filter (!·.isEmpty) = [word.toList]) :
    targetOf? type = some word := by
  rw [targetOf?, h]
  exact congrArg some String.ofList_toList

theorem splitWhere_of_isWord {word : String} (h : IsWord word) :
    Text.splitWhere (!Text.isWordChar ·) word.toList = [word.toList] :=
  Text.splitWhere_of_all fun c hc => by rw [h.2 c hc]; rfl

theorem targetOf?_of_isWord {word : String} (h : IsWord word) : targetOf? word = some word := by
  apply targetOf?_eq_some
  have hne : (!word.toList.isEmpty) = true := by simpa using h.1
  rw [splitWhere_of_isWord h, List.filter_singleton, hne]
  rfl

theorem targetOf?_list {word : String} (h : IsWord word) :
    targetOf? ("[]" ++ word) = some word := by
  apply targetOf?_eq_some
  have hne : (!word.toList.isEmpty) = true := by simpa using h.1
  have hcs : ("[]" ++ word).toList = '[' :: ']' :: word.toList := by simp
  rw [hcs, Text.splitWhere_cons_of_pos (by decide), Text.splitWhere_cons_of_pos (by decide),
    splitWhere_of_isWord h, List.filter_cons_of_neg (by decide),
    List.filter_cons_of_neg (by decide), List.filter_singleton, hne]
  rfl

theorem isListType_list (item : String) : isListType ("[]" ++ item) = true := by
  rw [isListType, String.toList_append, List.isPrefixOf_iff_prefix]
  exact List.prefix_append _ _

theorem isRelationType_list (item : String) :
    isRelationType ("[]" ++ item) = !Scalar.isScalarType item := by
  have hcs : ("[]" ++ item).toList = '[' :: ']' :: item.toList := by simp
  unfold isRelationType
  rw [hcs]
  simp only [String.ofList_toList]

theorem targetOf?_relationType {relation : Relation} (h : WritableRelation relation) :
    targetOf? (relationType relation) = some (structName relation.table) := by
  rcases relationType_eq_or relation with htype | htype
  · rw [htype, targetOf?_of_isWord h.target_word]
  · rw [htype, targetOf?_list h.target_word]

theorem isListType_relationType {relation : Relation} (h : WritableRelation relation) :
    isListType (relationType relation)
      = (relation.kind == .hasMany || relation.kind == .manyToMany) := by
  have hfield : isListType (structName relation.table) = false := by
    obtain ⟨first, rest, hname, hfirst⟩ := exists_cons_of_isWord h.target_word
    have hne : first ≠ '[' := by
      rintro rfl
      exact absurd hfirst (by decide)
    rw [isListType, hname]
    exact Bool.and_eq_false_imp.mpr fun heq => absurd (beq_iff_eq.mp heq).symm hne
  unfold relationType
  cases relation.kind with
  | hasOne => exact hfield
  | belongsTo => exact hfield
  | hasMany => exact isListType_list _
  | manyToMany => exact isListType_list _

theorem given?_singleton {value : String} (h : value ≠ "") (key other : String) :
    Options.given? [(key, value)] other = if other == key then some value else none := by
  rw [Options.given?, Keyed.get?_cons]
  by_cases hkey : (other == key) = true
  · rw [if_pos hkey, if_pos hkey, Option.filter_some, if_pos (by simpa using h)]
  · rw [if_neg hkey, if_neg hkey]
    rfl

/-- The field for a relation is read in any structure as the relation that comes back. -/
theorem WritableRelation.relationOf_relationText {relation : Relation} (h : WritableRelation relation)
    (owner : Declaration) :
    relationOf owner ((relationText relation).field "gorm")
      = .ok (relationBack (owner.columnFor? (Naming.toPascalCase relation.foreignKey)) relation) := by
  have hvalue := h.value_ne
  have hlist := isListType_relationType h
  have hoptions := h.options_relationText
  have hid : Naming.toSnakeCase "ID" = "id" := by decide
  have hnone : Naming.toSnakeCase "" = "" := by decide
  rw [relationOf, type_field_relationText, targetOf?_relationType h]
  apply congrArg Except.ok
  unfold relationValue at hoptions hvalue
  -- the option under which the value stands tells a table in between from a key
  simp only [relationTo, type_field_relationText, name_field_relationText, backReference, hlist,
    hoptions, given?_singleton hvalue, relationBack]
  cases hkind : relation.kind with
  | manyToMany =>
      cases hjoin : relation.joinTable with
      | none => simp [hkind, hjoin] at hvalue
      | some joinTable => simp [hid, hnone, Keyed.get?]
  | hasMany => simp [hid]
  | hasOne | belongsTo =>
      cases hown : owner.columnFor? (Naming.toPascalCase relation.foreignKey) with
      | none => simp [hid, hown]
      | some column => simp [hid, hown]

namespace WritableTable

theorem isRelationType_of_mem_columns (h : WritableTable table) :
    ∀ field ∈ table.columns.map fun column => (columnText column).field "gorm",
      isRelationType field.type = false := by
  intro field hfield
  obtain ⟨column, hcolumn, rfl⟩ := List.mem_map.mp hfield
  rw [type_field_columnText]
  exact (h.columns column hcolumn).type_value

theorem isRelationType_of_mem_relations (h : WritableTable table) :
    ∀ field ∈ table.relations.map fun relation => (relationText relation).field "gorm",
      isRelationType field.type = true := by
  intro field hfield
  obtain ⟨relation, hrelation, rfl⟩ := List.mem_map.mp hfield
  rw [type_field_relationText]
  exact (h.relations relation hrelation).isRelationType_relationType

theorem columns_declaration (h : WritableTable table) :
    ((tableText table).declaration "gorm").columns
      = table.columns.map fun column => (columnText column).field "gorm" := by
  have hrelations : ∀ field ∈ table.relations.map fun relation =>
      (relationText relation).field "gorm", ¬ (!isRelationType field.type) = true := by
    intro field hfield
    rw [h.isRelationType_of_mem_relations field hfield]
    exact Bool.false_ne_true
  have hcolumns : ∀ field ∈ table.columns.map fun column => (columnText column).field "gorm",
      (!isRelationType field.type) = true := by
    intro field hfield
    rw [h.isRelationType_of_mem_columns field hfield]
    rfl
  unfold StructText.declaration
  rw [map_field_tableText]
  dsimp only
  rw [List.filter_append, List.filter_eq_self.mpr hcolumns, List.filter_eq_nil_iff.mpr hrelations,
    List.append_nil]

theorem relations_declaration (h : WritableTable table) :
    ((tableText table).declaration "gorm").relations
      = table.relations.map fun relation => (relationText relation).field "gorm" := by
  have hcolumns : ∀ field ∈ table.columns.map fun column => (columnText column).field "gorm",
      ¬ isRelationType field.type = true := by
    intro field hfield
    rw [h.isRelationType_of_mem_columns field hfield]
    exact Bool.false_ne_true
  unfold StructText.declaration
  rw [map_field_tableText]
  dsimp only
  rw [List.filter_append, List.filter_eq_self.mpr h.isRelationType_of_mem_relations,
    List.filter_eq_nil_iff.mpr hcolumns, List.nil_append]

/-- The first column whose field has the name of a key is the one that the structure finds. -/
theorem columnFor?_declaration (h : WritableTable table) (key : String) :
    ((tableText table).declaration "gorm").columnFor? (Naming.toPascalCase key)
      = ownColumn? table key := by
  have hfind : (table.columns.map fun column => (columnText column).field "gorm").find?
      (·.name == Naming.toPascalCase key)
        = (table.columns.find? (Naming.toPascalCase ·.name == Naming.toPascalCase key)).map
          fun column => (columnText column).field "gorm" := by
    rw [List.find?_map]
    simp only [Function.comp_def, name_field_columnText]
  rw [Declaration.columnFor?, h.columns_declaration, hfind, Option.map_map, ownColumn?]
  cases hcolumn : table.columns.find? (Naming.toPascalCase ·.name == Naming.toPascalCase key) with
  | none => rw [Option.map_none, Option.map_none]
  | some column =>
      rw [Option.map_some, Option.map_some, Function.comp_apply,
        columnName_columnText (h.columns column (List.mem_of_find?_eq_some hcolumn))]

theorem tableOf_declaration (h : WritableTable table) (dialect : Dialect) :
    tableOf dialect ((tableText table).declaration "gorm") = .ok (rereadTable dialect table) := by
  have hrelations : ((tableText table).declaration "gorm").relations.mapM
      (relationOf ((tableText table).declaration "gorm"))
        = .ok (table.relations.map (rereadRelation table)) := by
    rw [h.relations_declaration, mapM_eq_ok_iff, List.map_map, List.map_map]
    refine List.map_congr_left fun relation hrelation => ?_
    rw [Function.comp_apply, Function.comp_apply,
      (h.relations relation hrelation).relationOf_relationText, h.columnFor?_declaration]
    rfl
  have hcolumns : ((tableText table).declaration "gorm").columns.map (columnOf dialect)
      = table.columns.map (rereadColumn dialect) := by
    rw [h.columns_declaration, List.map_map]
    refine List.map_congr_left fun column hcolumn => ?_
    rw [Function.comp_apply, columnOf_columnText dialect (h.columns column hcolumn)]
  have hname : ((tableText table).declaration "gorm").tableName
      = tableNameFor (structName table.name) := by
    simp [Declaration.tableName, StructText.declaration]
  refine tableOf_eq_ok_iff.mpr ⟨_, hrelations, ?_⟩
  rw [hcolumns, hname]
  rfl

end WritableTable

/-- A rendered source is read as its tables, each read back on its own, with their references
marked. -/
theorem parse_render (dialect : Dialect) {tables : List Table}
    (h : ∀ table ∈ tables, WritableTable table) :
    parse (render tables "models") dialect "gorm"
      = .ok (markTargets (tables.map (rereadTable dialect))) := by
  have hkept : ∀ declaration ∈ tables.map fun table => (tableText table).declaration "gorm",
      (!declaration.columns.isEmpty) = true := by
    intro declaration hdeclaration
    obtain ⟨table, htable, rfl⟩ := List.mem_map.mp hdeclaration
    rw [(h table htable).columns_declaration]
    simpa using (h table htable).columns_ne
  have hread : (tables.map fun table => (tableText table).declaration "gorm").mapM
      (tableOf dialect) = .ok (tables.map (rereadTable dialect)) := by
    rw [mapM_eq_ok_iff, List.map_map, List.map_map]
    exact List.map_congr_left fun table htable => (h table htable).tableOf_declaration dialect
  rw [parse, declarations_render h, List.filter_eq_self.mpr hkept, hread]
  rfl

end RelSchema.Models
