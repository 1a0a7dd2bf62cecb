import RelSchema.Proofs.Models.Reread

/-!
# Columns through a rendered source

Tables without relations come back from their source in order, with their names, keys and defaults.
Only the types change: a column has the one that its field declares.
-/

namespace RelSchema.Models

/-- A column whose texts can all stand in its field. The default may hold nearly anything. -/
@[mk_iff]
structure PlainColumn (column : Column) : Prop where
  name_char : ∀ c ∈ column.name.toList, Naming.isAsciiWord c = true
  name_letter : ∃ c ∈ column.name.toList, c ≠ '_'
  declared : ∀ type ∈ column.declaredType,
    isRelationType type = false ∧ ∀ c ∈ type.toList, isTypeChar c = true
  size_char : ∀ c ∈ (SqlType.size column.type).toList, isVerbatim c = true
  default_ne : ∀ value ∈ column.defaultValue, value ≠ ""
  default_trim : ∀ value ∈ column.defaultValue, Text.trim value.toList = value.toList
  default_char : ∀ value ∈ column.defaultValue, ∀ c ∈ value.toList, isTagChar c = true

instance (column : Column) : Decidable (PlainColumn column) :=
  decidable_of_iff (column.name.toList.all Naming.isAsciiWord = true ∧
      column.name.toList.any (· != '_') = true ∧
      column.declaredType.all (fun type =>
        !isRelationType type && type.toList.all isTypeChar) = true ∧
      (SqlType.size column.type).toList.all isVerbatim = true ∧
      column.defaultValue.all (· != "") = true ∧
      column.defaultValue.all (fun value => Text.trim value.toList == value.toList) = true ∧
      column.defaultValue.all (·.toList.all isTagChar) = true)
    (by simp only [plainColumn_iff, Option.all_eq_true, List.all_eq_true, List.any_eq_true,
      Bool.and_eq_true, Bool.not_eq_true', bne_iff_ne, beq_iff_eq, Option.mem_def])

/-- A table without relations whose structure can be read back under the name of the table. -/
@[mk_iff]
structure PlainTable (table : Table) : Prop where
  name_word : IsWord (structName table.name)
  name_restored : tableNameFor (structName table.name) = table.name
  columns_ne : table.columns ≠ []
  columns : ∀ column ∈ table.columns, PlainColumn column
  relations_nil : table.relations = []

instance (table : Table) : Decidable (PlainTable table) :=
  decidable_of_iff _ (plainTable_iff table).symm

/-- A column with the type that its field declares. -/
def restoredColumn (dialect : Dialect) (column : Column) : Column where
  name := column.name
  type := declaredSqlType (fieldType column) dialect
  declaredType := some (fieldType column)
  isPrimaryKey := column.isPrimaryKey
  isNullable := column.isNullable && !column.isPrimaryKey
  defaultValue := column.defaultValue

/-- A table whose columns have the types that their fields declare. -/
def restoredTable (dialect : Dialect) (table : Table) : Table where
  name := table.name
  columns := table.columns.map (restoredColumn dialect)
  primaryKeys := (table.columns.filter (·.isPrimaryKey)).map (·.name)

theorem declaredType_eq (type : String) (nullable : Bool) :
    ∃ scalar : Scalar, declaredType type nullable = scalar.name ∨
      declaredType type nullable = "*" ++ scalar.name := by
  refine ⟨(Scalar.ofBase? (SqlType.base type)).getD .string, ?_⟩
  unfold declaredType
  dsimp only
  split_ifs
  · exact Or.inr rfl
  · exact Or.inl rfl

theorem isRelationType_declaredType (type : String) (nullable : Bool) :
    isRelationType (declaredType type nullable) = false := by
  obtain ⟨scalar, hname | hreference⟩ := declaredType_eq type nullable
  · rw [hname]
    cases scalar <;> decide
  · rw [hreference]
    cases scalar <;> decide

theorem isTypeChar_of_mem_declaredType (type : String) (nullable : Bool) :
    ∀ c ∈ (declaredType type nullable).toList, isTypeChar c = true := by
  obtain ⟨scalar, hname | hreference⟩ := declaredType_eq type nullable
  · rw [hname]
    exact List.all_eq_true.mp (by cases scalar <;> decide)
  · rw [hreference]
    exact List.all_eq_true.mp (by cases scalar <;> decide)

theorem PlainColumn.fieldType_spec {column : Column} (h : PlainColumn column) :
    isRelationType (fieldType column) = false ∧
      ∀ c ∈ (fieldType column).toList, isTypeChar c = true := by
  have hdeclared := h.declared
  unfold fieldType
  split
  · exact ⟨isRelationType_declaredType _ _, isTypeChar_of_mem_declaredType _ _⟩
  · exact ⟨isRelationType_declaredType _ _, isTypeChar_of_mem_declaredType _ _⟩
  · next type _ htype => exact hdeclared type htype

theorem PlainColumn.writable {column : Column} (h : PlainColumn column) :
    WritableColumn column where
  name_word := by
    refine ⟨?_, fun c hc => Naming.isWordChar_of_isAsciiWord (h.name_char c hc)⟩
    rintro hempty
    obtain ⟨c, hc, -⟩ := h.name_letter
    simp [hempty] at hc
  field_word :=
    ⟨Naming.toPascalCase_ne_empty h.name_letter, Naming.isWordChar_toPascalCase h.name_char⟩
  type_ne := ne_empty_of_isRelationType h.fieldType_spec.1
  type_char := h.fieldType_spec.2
  type_value := h.fieldType_spec.1
  size_verbatim := h.size_char
  default_char := h.default_char

theorem PlainColumn.rereadColumn_eq {column : Column} (h : PlainColumn column) (dialect : Dialect) :
    rereadColumn dialect column = restoredColumn dialect column := by
  have hdefault : ((column.defaultValue.filter (· != "")).map readValue).filter (· != "")
      = column.defaultValue := by
    cases hvalue : column.defaultValue with
    | none => rfl
    | some value =>
        have hne : (value != "") = true := by simpa using h.default_ne value hvalue
        rw [Option.filter_some, if_pos hne, Option.map_some,
          readValue_of_trim (h.default_trim value hvalue), Option.filter_some, if_pos hne]
  rw [rereadColumn, hdefault]
  rfl

namespace PlainTable

variable {table : Table}

theorem writable (h : PlainTable table) : WritableTable table where
  name_word := h.name_word
  columns_ne := h.columns_ne
  columns := fun column hcolumn => (h.columns column hcolumn).writable
  relations := by
    rw [h.relations_nil]
    exact List.forall_mem_nil _

theorem rereadTable_eq (h : PlainTable table) (dialect : Dialect) :
    rereadTable dialect table = restoredTable dialect table := by
  have hcolumns : table.columns.map (rereadColumn dialect)
      = table.columns.map (restoredColumn dialect) :=
    List.map_congr_left fun column hcolumn => (h.columns column hcolumn).rereadColumn_eq dialect
  have hkey : primaryKeyOrder (table.columns.map (restoredColumn dialect)) []
      = (table.columns.filter (·.isPrimaryKey)).map (·.name) :=
    primaryKeyOrder_map (f := restoredColumn dialect) (fun _ => rfl) (fun _ => rfl) table.columns []
  rw [rereadTable, h.relations_nil, List.map_nil, List.foldl_nil, hcolumns, hkey, h.name_restored]
  rfl

end PlainTable

theorem markTargets_eq_self {tables : List Table} (h : ∀ table ∈ tables, table.relations = []) :
    markTargets tables = tables := by
  have hstep : ∀ marked : List Table, ∀ owner ∈ tables,
      owner.relations.foldl (markTarget owner.name) marked = marked := by
    intro marked owner howner
    rw [h owner howner, List.foldl_nil]
  rw [markTargets, List.foldl_ext _ (fun marked _ => marked) tables hstep]
  exact List.foldl_fixed tables

/-- Tables without relations are read back in order, each with its names, marks, key and
defaults. -/
theorem parse_render_columns (dialect : Dialect) {tables : List Table}
    (h : ∀ table ∈ tables, PlainTable table) :
    parse (render tables "models") dialect "gorm" = .ok (tables.map (restoredTable dialect)) := by
  have hreread : tables.map (rereadTable dialect) = tables.map (restoredTable dialect) :=
    List.map_congr_left fun table htable => (h table htable).rereadTable_eq dialect
  have hrelations : ∀ table ∈ tables.map (restoredTable dialect), table.relations = [] := by
    intro table htable
    obtain ⟨original, -, rfl⟩ := List.mem_map.mp htable
    rfl
  rw [parse_render dialect fun table htable => (h table htable).writable, hreread,
    markTargets_eq_self hrelations]

/-- Tables whose defaults look like options, tags, braces and comments. -/
def journal : List Table := [
  { name := "blog_posts"
    columns := [
      { name := "id", type := "INT", isPrimaryKey := true },
      { name := "_2", type := "VARCHAR(20, \t)", isNullable := false,
        defaultValue := some "'; size:9; \"\x7d // it''s \\" },
      { name := "seen_at", declaredType := some "*time.Time", defaultValue := some "\\';/*" }] },
  { name := "users"
    columns := [{ name := "url", declaredType := some "a.*B[]", defaultValue := some "json:\"\"" }] }]

theorem plainTable_of_mem_journal : ∀ table ∈ journal, PlainTable table := by decide

theorem parse_render_journal :
    (∀ table ∈ journal, PlainTable table) ∧
      parse (render journal "models") .sqlite "gorm" = .ok (journal.map (restoredTable .sqlite)) :=
  ⟨plainTable_of_mem_journal, parse_render_columns .sqlite plainTable_of_mem_journal⟩

end RelSchema.Models
