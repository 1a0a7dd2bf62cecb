import RelSchema.Proofs.Models.Layout
import RelSchema.Proofs.Models.Source
import RelSchema.Proofs.Models.Tag
import RelSchema.Proofs.Naming.Pascal

/-!
# Fields of rendered structures

A column and a relation are each rendered as a field in standard layout. Its name, type and options
are what the field is read back with.
-/

namespace RelSchema.Models

def optionMarks : List Char :=
  ['\'', '"', '\\', '\x60', ';', '\x7b', '\x7d']

def isVerbatim (c : Char) : Bool :=
  !optionMarks.contains c && !Text.isLineBreak c

theorem isVerbatim_iff {c : Char} :
    isVerbatim c = true ↔ c ∉ optionMarks ∧ Text.isLineBreak c = false := by
  rw [isVerbatim, Bool.and_eq_true, Bool.not_eq_true', Bool.not_eq_true', Bool.eq_false_iff, ne_eq,
    List.contains_iff_mem]

theorem ne_of_isVerbatim {c mark : Char} (hc : isVerbatim c = true) (hmark : mark ∈ optionMarks) :
    c ≠ mark := by
  rintro rfl
  exact (isVerbatim_iff.mp hc).1 hmark

theorem ne_empty_of_isRelationType {type : String} (h : isRelationType type = false) :
    type ≠ "" := by
  rintro rfl
  exact absurd h (by decide)

/-- The options of the field for a column in front of its default. -/
def columnParts (column : Column) : List (List Char) :=
  (if column.isPrimaryKey then ["primaryKey".toList] else []) ++
    ["column".toList ++ ':' :: column.name.toList] ++
    (if SqlType.size column.type == "" then []
      else ["size".toList ++ ':' :: (SqlType.size column.type).toList]) ++
    (if column.isNullable || column.isPrimaryKey then [] else ["not null".toList])

def defaultPart? (column : Column) : Option (List Char) :=
  (column.defaultValue.filter (· != "")).map fun value =>
    "default".toList ++ ':' :: wrapped value.toList

/-- What is read of a value behind the name of its option. -/
def readValue (value : String) : String :=
  .ofList (optionValue (Text.trim (wrapped value.toList)))

/-- What is read of the options of the field for a column. -/
def columnEntries (column : Column) : List (String × String) :=
  (if column.isPrimaryKey then [("primarykey", "")] else []) ++ [("column", column.name)] ++
    (if SqlType.size column.type == "" then []
      else [("size", readValue (SqlType.size column.type))]) ++
    (if column.isNullable || column.isPrimaryKey then [] else [("not null", "")]) ++
    ((column.defaultValue.filter (· != "")).map fun value => ("default", readValue value)).toList

def columnText (column : Column) : FieldText where
  name := (Naming.toPascalCase column.name).toList
  type := (fieldType column).toList
  tags := tagged ([';'].intercalate (columnParts column ++ (defaultPart? column).toList))
    column.name.toList

@[simp]
theorem columnText_name (column : Column) :
    (columnText column).name = (Naming.toPascalCase column.name).toList := by
  rw [columnText]

@[simp]
theorem columnText_type (column : Column) :
    (columnText column).type = (fieldType column).toList := by
  rw [columnText]

@[simp]
theorem name_field_columnText (column : Column) (tag : String) :
    ((columnText column).field tag).name = Naming.toPascalCase column.name := by
  simp [FieldText.field]

@[simp]
theorem type_field_columnText (column : Column) (tag : String) :
    ((columnText column).field tag).type = fieldType column := by
  simp [FieldText.field]

/-- Whether the field for a column can be read off its line. -/
@[mk_iff]
structure WritableColumn (column : Column) : Prop where
  name_word : IsWord column.name
  field_word : IsWord (Naming.toPascalCase column.name)
  type_ne : fieldType column ≠ ""
  type_char : ∀ c ∈ (fieldType column).toList, isTypeChar c = true
  type_value : isRelationType (fieldType column) = false
  size_verbatim : ∀ c ∈ (SqlType.size column.type).toList, isVerbatim c = true
  default_char : ∀ value ∈ column.defaultValue, ∀ c ∈ value.toList, isTagChar c = true

instance (column : Column) : Decidable (WritableColumn column) :=
  decidable_of_iff (IsWord column.name ∧ IsWord (Naming.toPascalCase column.name) ∧
      fieldType column ≠ "" ∧ (fieldType column).toList.all isTypeChar = true ∧
      isRelationType (fieldType column) = false ∧
      (SqlType.size column.type).toList.all isVerbatim = true ∧
      column.defaultValue.all (·.toList.all isTagChar) = true)
    (by simp only [writableColumn_iff, Option.all_eq_true, List.all_eq_true, Option.mem_def])

theorem escaped_of_verbatim {s : List Char} (hs : ∀ c ∈ s, isVerbatim c = true) : escaped s = s :=
  escaped_eq_self fun c hc =>
    ⟨ne_of_isVerbatim (hs c hc) (by decide), ne_of_isVerbatim (hs c hc) (by decide)⟩

theorem isVerbatim_of_isWordChar {c : Char} (hc : Text.isWordChar c = true) :
    isVerbatim c = true := by
  have hmarks : optionMarks.any Text.isWordChar = false := by decide
  refine isVerbatim_iff.mpr ⟨fun hmem => List.any_eq_false.mp hmarks c hmem hc, ?_⟩
  by_contra hbreak
  have hblank := Text.isBlank_of_isLineBreak (by simpa using hbreak)
  rw [Text.isBlank_of_isWordChar hc] at hblank
  cases hblank

theorem isPlain_of_isVerbatim {c : Char} (hc : isVerbatim c = true) : isPlain c = true :=
  isPlain_iff.mpr ⟨ne_of_isVerbatim hc (by decide), ne_of_isVerbatim hc (by decide)⟩

theorem isTagChar_of_isVerbatim {c : Char} (hc : isVerbatim c = true) : isTagChar c = true :=
  isTagChar_iff.mpr ⟨ne_of_isVerbatim hc (by decide), ne_of_isVerbatim hc (by decide),
    (isVerbatim_iff.mp hc).2⟩

theorem isTagChar_of_mem_tagged {options name : List Char}
    (hoptions : ∀ c ∈ options, isTagChar c = true) (hname : ∀ c ∈ name, isTagChar c = true) :
    ∀ c ∈ tagged options name, isTagChar c = true := by
  have hescaped : ∀ {s : List Char}, (∀ c ∈ s, isTagChar c = true) →
      ∀ c ∈ escaped s, isTagChar c = true := by
    intro s hs c hc
    rcases mem_of_mem_escaped hc with rfl | hc
    · decide
    · exact hs c hc
  have htagged : tagged options name = ("gorm".toList ++ [':', '"']) ++ escaped options ++
      (['"', ' '] ++ "json".toList ++ [':', '"']) ++ escaped name ++ ['"'] := by
    simp [tagged]
  rw [htagged]
  refine List.forall_mem_append.mpr ⟨List.forall_mem_append.mpr ⟨List.forall_mem_append.mpr
    ⟨List.forall_mem_append.mpr ⟨?_, hescaped hoptions⟩, ?_⟩, hescaped hname⟩, ?_⟩
  all_goals exact List.all_eq_true.mp (by decide)

theorem readValue_of_trim {value : String} (h : Text.trim value.toList = value.toList) :
    readValue value = value := by
  rw [readValue, trim_wrapped h, optionValue_wrapped, String.ofList_toList]

theorem trim_of_word {s : List Char} (hs : ∀ c ∈ s, Text.isWordChar c = true) : Text.trim s = s :=
  Text.trim_eq_self (fun c hc => Text.isBlank_of_isWordChar (hs c (List.mem_of_head? hc)))
    fun c hc => Text.isBlank_of_isWordChar (hs c (List.mem_of_getLast? hc))

theorem readOption_wrapped {key : String} (hkey : ':' ∉ key.toList) (value : String) :
    readOption (key.toList ++ ':' :: wrapped value.toList)
      = ((readOption key.toList).1, readValue value) :=
  readOption_append hkey _

theorem readOption_verbatim {key value : String} (hkey : ':' ∉ key.toList)
    (hvalue : ∀ c ∈ value.toList, isVerbatim c = true) :
    readOption (key.toList ++ ':' :: value.toList)
      = ((readOption key.toList).1, readValue value) := by
  have hwrapped := wrapped_of_plain fun c hc => isPlain_of_isVerbatim (hvalue c hc)
  rw [← readOption_wrapped hkey, hwrapped]

theorem readOption_name {name : String} (hname : ∀ c ∈ name.toList, Text.isWordChar c = true) :
    readOption ("column".toList ++ ':' :: name.toList) = ("column", name) := by
  rw [readOption_verbatim (by decide) fun c hc => isVerbatim_of_isWordChar (hname c hc),
    readValue_of_trim (trim_of_word hname)]
  exact congrArg (·, name) (by decide)

theorem readOption_default (value : String) :
    readOption ("default".toList ++ ':' :: wrapped value.toList)
      = ("default", readValue value) := by
  rw [readOption_wrapped (by decide)]
  exact congrArg (·, readValue value) (by decide)

theorem isPart_default {column : Column} : ∀ last ∈ defaultPart? column, IsPart last := by
  intro last hlast
  obtain ⟨value, -, rfl⟩ := Option.map_eq_some_iff.mp hlast
  exact isPart_wrapped (List.all_eq_true.mp (by decide)) value.toList

/-- Of the options of the field for a column only the default is escaped. -/
theorem toList_columnOptions (column : Column) :
    (columnOptions column).map String.toList
      = columnParts column ++ (defaultPart? column).toList.map escaped := by
  have hkey : ∀ c ∈ "default:".toList, isVerbatim c = true := List.all_eq_true.mp (by decide)
  have hdefault : ∀ value : String, ("default:" ++ String.ofList (renderValue value)).toList
      = escaped ("default:".toList ++ wrapped value.toList) := by
    intro value
    have hvalue : (String.ofList (renderValue value)).toList = escaped (wrapped value.toList) :=
      String.toList_ofList
    rw [escaped_append, escaped_of_verbatim hkey, String.toList_append, hvalue]
  rw [columnOptions, List.map_append]
  congr 1
  · unfold columnParts
    split_ifs <;> simp
  · unfold defaultPart?
    split
    · next hnone => rw [hnone]; rfl
    · next hempty => rw [hempty]; rfl
    · next value hne hsome =>
      have hvalue : value ≠ "" := hne
      rw [hsome, Option.filter_some, if_pos (by simpa using hvalue)]
      exact congrArg (fun part => [part]) (hdefault value)

namespace WritableColumn

variable {column : Column}

theorem verbatim_of_mem_columnParts (h : WritableColumn column) :
    ∀ part ∈ columnParts column, ∀ c ∈ part, isVerbatim c = true := by
  have hflags : ∀ flag ∈ ["primaryKey", "not null"], flag.toList.all isVerbatim = true := by
    decide
  have hkeys : ∀ key ∈ ["column", "size"], (key.toList ++ [':']).all isVerbatim = true := by decide
  have hvalue : ∀ key ∈ ["column", "size"], ∀ value : List Char,
      (∀ c ∈ value, isVerbatim c = true) →
      ∀ c ∈ key.toList ++ ':' :: value, isVerbatim c = true := by
    intro key hkey value hvalue
    rw [List.append_cons]
    exact List.forall_mem_append.mpr ⟨List.all_eq_true.mp (hkeys key hkey), hvalue⟩
  intro part hpart
  simp only [columnParts, List.mem_append] at hpart
  rcases hpart with ((hpart | hpart) | hpart) | hpart
  · split_ifs at hpart
    · exact List.mem_singleton.mp hpart ▸ List.all_eq_true.mp (hflags "primaryKey" (by decide))
    · cases hpart
  · rw [List.mem_singleton.mp hpart]
    exact hvalue "column" (by decide) _ fun c hc => isVerbatim_of_isWordChar (h.name_word.2 c hc)
  · split_ifs at hpart
    · cases hpart
    · rw [List.mem_singleton.mp hpart]
      exact hvalue "size" (by decide) _ h.size_verbatim
  · split_ifs at hpart
    · cases hpart
    · exact List.mem_singleton.mp hpart ▸ List.all_eq_true.mp (hflags "not null" (by decide))

theorem map_toList_columnOptions (h : WritableColumn column) :
    (columnOptions column).map String.toList
      = (columnParts column ++ (defaultPart? column).toList).map escaped := by
  have hparts : (columnParts column).map escaped = columnParts column :=
    (List.map_congr_left fun part hpart =>
      escaped_of_verbatim (h.verbatim_of_mem_columnParts part hpart)).trans (List.map_id _)
  rw [toList_columnOptions, List.map_append, hparts]

theorem toList_renderColumn (h : WritableColumn column) :
    (renderColumn column).toList = (columnText column).line ++ ['\n'] := by
  have hoptions : (Text.joinWith ";" (columnOptions column)).toList
      = escaped ([';'].intercalate (columnParts column ++ (defaultPart? column).toList)) := by
    rw [escaped_intercalate, ← h.map_toList_columnOptions, Text.joinWith, String.toList_intercalate]
    rfl
  have hname : escaped column.name.toList = column.name.toList :=
    escaped_of_verbatim fun c hc => isVerbatim_of_isWordChar (h.name_word.2 c hc)
  simp [renderColumn, columnTag, hoptions, columnText, FieldText.line, tagged, hname]

theorem legible_columnText (h : WritableColumn column) : (columnText column).Legible where
  name_ne := by simpa using h.field_word.1
  name_word := by simpa only [columnText_name] using h.field_word.2
  type_ne := by simpa using h.type_ne
  type_char := by simpa only [columnText_type] using h.type_char
  tags_char := by
    refine isTagChar_of_mem_tagged (fun c hc => ?_) fun c hc =>
      isTagChar_of_isVerbatim (isVerbatim_of_isWordChar (h.name_word.2 c hc))
    rcases mem_of_mem_intercalate hc with rfl | ⟨part, hpart, hc⟩
    · decide
    · rcases List.mem_append.mp hpart with hpart | hpart
      · exact isTagChar_of_isVerbatim (h.verbatim_of_mem_columnParts part hpart c hc)
      · obtain ⟨value, hvalue, rfl⟩ := Option.map_eq_some_iff.mp (Option.mem_toList.mp hpart)
        obtain ⟨hdefault, -⟩ := Option.filter_eq_some_iff.mp hvalue
        rw [List.append_cons, List.mem_append] at hc
        rcases hc with hkey | hc
        · have hkeys : ("default".toList ++ [':']).all isTagChar = true := by decide
          exact List.all_eq_true.mp hkeys c hkey
        · rcases mem_of_mem_wrapped hc with rfl | hc
          · decide
          · exact h.default_char value hdefault c hc

theorem optionParts_columnParts (h : WritableColumn column) :
    optionParts ([';'].intercalate (columnParts column ++ (defaultPart? column).toList))
      = columnParts column ++ (defaultPart? column).toList := by
  have hname : "column".toList ++ ':' :: column.name.toList ∈ columnParts column := by
    unfold columnParts
    exact List.mem_append_left _
      (List.mem_append_left _ (List.mem_append_right _ List.mem_cons_self))
  have hparts : ∀ part ∈ columnParts column, ∀ c ∈ part, isPlain c = true := fun part hpart c hc =>
    isPlain_of_isVerbatim (h.verbatim_of_mem_columnParts part hpart c hc)
  exact optionPartsFrom_intercalate_toList hparts isPart_default
    (List.append_ne_nil_of_left_ne_nil (List.ne_nil_of_mem hname) _) none

theorem map_readOption (h : WritableColumn column) :
    (columnParts column ++ (defaultPart? column).toList).map readOption = columnEntries column := by
  have hname := readOption_name h.name_word.2
  have hsize : readOption ("size".toList ++ ':' :: (SqlType.size column.type).toList)
      = ("size", readValue (SqlType.size column.type)) := by
    rw [readOption_verbatim (by decide) h.size_verbatim]
    exact congrArg (·, readValue (SqlType.size column.type)) (by decide)
  have hkey : readOption "primaryKey".toList = ("primarykey", "") := by decide
  have hrequired : readOption "not null".toList = ("not null", "") := by decide
  simp only [columnParts, columnEntries, defaultPart?, List.map_append,
    apply_ite (List.map readOption), List.map_nil, List.map_singleton, hname, hsize, hkey,
    hrequired]
  cases column.defaultValue.filter (· != "") with
  | none => rfl
  | some value => exact congrArg (_ ++ [·]) (readOption_default value)

theorem options_columnText (h : WritableColumn column) :
    ((columnText column).field "gorm").options = .ofList (columnEntries column) := by
  have hkeys : ∀ entry ∈ columnEntries column, (entry.1 != "") = true := by
    rw [← List.all_eq_true, columnEntries]
    cases column.defaultValue.filter (· != "") <;> cases (SqlType.size column.type == "") <;>
      cases column.isPrimaryKey <;> cases column.isNullable <;> rfl
  have htext : optionText (columnText column).tags "gorm"
      = [';'].intercalate (columnParts column ++ (defaultPart? column).toList) := by
    rw [columnText, optionText_tagged]
  rw [FieldText.field, readTag, htext, h.optionParts_columnParts, h.map_readOption,
    List.filter_eq_self.mpr hkeys]

end WritableColumn

theorem get?_columnEntries (column : Column) :
    (Keyed.ofList (columnEntries column)).get? "column" = some column.name ∧
      (Keyed.ofList (columnEntries column)).has "primarykey" = column.isPrimaryKey ∧
      (Keyed.ofList (columnEntries column)).has "primary_key" = false ∧
      (Keyed.ofList (columnEntries column)).has "not null"
        = !(column.isNullable || column.isPrimaryKey) ∧
      (Keyed.ofList (columnEntries column)).get? "default"
        = (column.defaultValue.filter (· != "")).map readValue := by
  simp only [Keyed.has, Keyed.get?_ofList, columnEntries]
  generalize column.defaultValue.filter (· != "") = default?
  generalize (SqlType.size column.type == "") = isSizeless
  cases default? <;> cases isSizeless <;> cases column.isPrimaryKey <;> cases column.isNullable <;>
    exact ⟨rfl, rfl, rfl, rfl, rfl⟩

/-! ### Relations

The field for a relation has a single option, which names a table in between or a key. Its type
opens with no small letter, which tells it from the fields for columns.
-/

/-- The name of the option of the field for a relation. -/
def relationKey (relation : Relation) : String :=
  if relation.kind == .manyToMany then "many2many" else "foreignKey"

def relationValue (relation : Relation) : String :=
  if relation.kind == .manyToMany then relation.joinTable.getD ""
  else Naming.toPascalCase relation.foreignKey

def relationText (relation : Relation) : FieldText where
  name := (Naming.toPascalCase relation.name).toList
  type := (relationType relation).toList
  tags := tagged ((relationKey relation).toList ++ ':' :: (relationValue relation).toList)
    ((Naming.toSnakeCase relation.name).toList ++ ",omitempty".toList)

@[simp]
theorem relationText_name (relation : Relation) :
    (relationText relation).name = (Naming.toPascalCase relation.name).toList := by
  rw [relationText]

@[simp]
theorem relationText_type (relation : Relation) :
    (relationText relation).type = (relationType relation).toList := by
  rw [relationText]

/-- The type of the field for a relation is the name of its target, behind brackets if there may be
many. -/
theorem relationType_eq_or (relation : Relation) :
    relationType relation = structName relation.table ∨
      relationType relation = "[]" ++ structName relation.table := by
  unfold relationType
  cases relation.kind with
  | hasOne => exact Or.inl rfl
  | belongsTo => exact Or.inl rfl
  | hasMany => exact Or.inr rfl
  | manyToMany => exact Or.inr rfl

/-- Whether the field for a relation can be read off its line. -/
@[mk_iff]
structure WritableRelation (relation : Relation) : Prop where
  field_word : IsWord (Naming.toPascalCase relation.name)
  target_word : IsWord (structName relation.table)
  label_verbatim : ∀ c ∈ (Naming.toSnakeCase relation.name).toList, isVerbatim c = true
  value_ne : relationValue relation ≠ ""
  value_verbatim : ∀ c ∈ (relationValue relation).toList, isVerbatim c = true
  value_trim : Text.trim (relationValue relation).toList = (relationValue relation).toList

instance (relation : Relation) : Decidable (WritableRelation relation) :=
  decidable_of_iff (IsWord (Naming.toPascalCase relation.name) ∧
      IsWord (structName relation.table) ∧
      (Naming.toSnakeCase relation.name).toList.all isVerbatim = true ∧
      relationValue relation ≠ "" ∧
      (relationValue relation).toList.all isVerbatim = true ∧
      Text.trim (relationValue relation).toList = (relationValue relation).toList)
    (by rw [writableRelation_iff, List.all_eq_true, List.all_eq_true])

theorem head_of_ofName? {type : String} {scalar : Scalar} (h : Scalar.ofName? type = some scalar) :
    ∃ c ∈ type.toList.head?, c.isLower = true ∨ c = '[' := by
  unfold Scalar.ofName? at h
  split at h <;> cases h <;> exact ⟨_, rfl, by decide⟩

@[simp]
theorem name_field_relationText (relation : Relation) (tag : String) :
    ((relationText relation).field tag).name = Naming.toPascalCase relation.name := by
  simp [FieldText.field]

@[simp]
theorem type_field_relationText (relation : Relation) (tag : String) :
    ((relationText relation).field tag).type = relationType relation := by
  simp [FieldText.field]

theorem exists_cons_of_isWord {s : String} (h : IsWord s) :
    ∃ c rest, s.toList = c :: rest ∧ Text.isWordChar c = true := by
  obtain ⟨c, rest, hs⟩ := List.exists_cons_of_ne_nil (l := s.toList) (by simpa using h.1)
  exact ⟨c, rest, hs, h.2 c (hs ▸ List.mem_cons_self)⟩

/-- A word that opens with no small letter names no scalar. -/
theorem isScalarType_of_head {type : String} (hword : IsWord type)
    (hhead : ∀ c ∈ type.toList.head?, c.isLower = false) : Scalar.isScalarType type = false := by
  obtain ⟨first, rest, htype, hfirst⟩ := exists_cons_of_isWord hword
  have hpointee : Scalar.pointee type = type := by
    unfold Scalar.pointee
    split
    · next more hstar =>
      rw [hstar, List.cons.injEq] at htype
      rw [← htype.1] at hfirst
      exact absurd hfirst (by decide)
    · rfl
  rw [Scalar.isScalarType, Scalar.ofReference?, hpointee, Option.isSome_eq_false_iff,
    Option.isNone_iff_eq_none, Option.eq_none_iff_forall_ne_some]
  intro scalar hscalar
  obtain ⟨c, hc, hlower | rfl⟩ := head_of_ofName? hscalar
  · rw [hhead c hc] at hlower
    cases hlower
  · rw [htype] at hc
    cases hc
    exact absurd hfirst (by decide)

namespace WritableRelation

variable {relation : Relation}

theorem option_verbatim (h : WritableRelation relation) :
    ∀ c ∈ (relationKey relation).toList ++ ':' :: (relationValue relation).toList,
      isVerbatim c = true := by
  have hkeys : ∀ key ∈ ["many2many", "foreignKey"],
      (key.toList ++ [':']).all isVerbatim = true := by
    decide
  have hkey : relationKey relation ∈ ["many2many", "foreignKey"] := by
    unfold relationKey
    split_ifs <;> decide
  rw [List.append_cons]
  exact List.forall_mem_append.mpr ⟨List.all_eq_true.mp (hkeys _ hkey), h.value_verbatim⟩

theorem name_verbatim (h : WritableRelation relation) :
    ∀ c ∈ (Naming.toSnakeCase relation.name).toList ++ ",omitempty".toList, isVerbatim c = true :=
  List.forall_mem_append.mpr ⟨h.label_verbatim, List.all_eq_true.mp (by decide)⟩

theorem relationTag_eq (h : WritableRelation relation) : relationTag relation
    = "gorm:\"" ++ relationKey relation ++ ":" ++ relationValue relation ++ "\" " := by
  have hvalue := h.value_ne
  unfold relationTag relationKey relationValue
  unfold relationValue at hvalue
  by_cases hkind : (relation.kind == .manyToMany) = true
  · rw [if_pos hkind, if_pos hkind, if_pos hkind]
    rfl
  · rw [if_neg hkind] at hvalue
    have hkey : ¬ (relation.foreignKey == "") = true := by
      intro hempty
      rw [beq_iff_eq.mp hempty] at hvalue
      exact hvalue (by decide)
    rw [if_neg hkind, if_neg hkind, if_neg hkind, if_neg hkey]
    rfl

theorem toList_renderRelation (h : WritableRelation relation) :
    (renderRelation relation).toList = (relationText relation).line ++ ['\n'] := by
  simp only [relationText, FieldText.line, tagged, escaped_of_verbatim h.option_verbatim,
    escaped_of_verbatim h.name_verbatim]
  simp [renderRelation, h.relationTag_eq]

theorem type_char_of_mem (h : WritableRelation relation) :
    ∀ c ∈ (relationType relation).toList, isTypeChar c = true := by
  have hname : ∀ c ∈ (structName relation.table).toList, isTypeChar c = true := fun c hc =>
    isTypeChar_of_isWordChar (h.target_word.2 c hc)
  have hlist : ∀ c ∈ "[]".toList, isTypeChar c = true := List.all_eq_true.mp (by decide)
  rcases relationType_eq_or relation with htype | htype
  · rw [htype]
    exact hname
  · rw [htype, String.toList_append]
    exact List.forall_mem_append.mpr ⟨hlist, hname⟩

theorem type_ne (h : WritableRelation relation) : relationType relation ≠ "" := by
  have hname := h.target_word.1
  rcases relationType_eq_or relation with htype | htype
  · rw [htype]
    exact hname
  · rw [htype]
    exact fun hempty => hname (String.append_eq_empty_iff.mp hempty).2

/-- The field for a relation refers to a structure, whose name opens with no small letter. -/
theorem isRelationType_relationType (h : WritableRelation relation) :
    isRelationType (relationType relation) = true := by
  have hscalar : Scalar.isScalarType (structName relation.table) = false :=
    isScalarType_of_head h.target_word fun c hc => Naming.isLower_head_toPascalCase hc
  have hfield : isRelationType (structName relation.table) = true := by
    obtain ⟨first, rest, hname, hfirst⟩ := exists_cons_of_isWord h.target_word
    have hdot : (structName relation.table).toList.contains '.' = false := by
      rw [Bool.eq_false_iff, ne_eq, List.contains_iff_mem]
      exact fun hmem => absurd (h.target_word.2 _ hmem) (by decide)
    unfold isRelationType
    split
    · next item hitem =>
      rw [hitem, List.cons.injEq] at hname
      rw [← hname.1] at hfirst
      exact absurd hfirst (by decide)
    · next target htarget =>
      rw [htarget, List.cons.injEq] at hname
      rw [← hname.1] at hfirst
      exact absurd hfirst (by decide)
    · rw [hscalar, hdot]
      rfl
  have hlist : isRelationType ("[]" ++ structName relation.table) = true := by
    have hcs : ("[]" ++ structName relation.table).toList
        = '[' :: ']' :: (structName relation.table).toList := by simp
    unfold isRelationType
    rw [hcs]
    change (!Scalar.isScalarType (.ofList (structName relation.table).toList)) = true
    rw [String.ofList_toList, hscalar]
    rfl
  rcases relationType_eq_or relation with htype | htype
  · rw [htype, hfield]
  · rw [htype, hlist]

theorem legible_relationText (h : WritableRelation relation) : (relationText relation).Legible where
  name_ne := by simpa using h.field_word.1
  name_word := by simpa only [relationText_name] using h.field_word.2
  type_ne := by simpa using h.type_ne
  type_char := by simpa only [relationText_type] using h.type_char_of_mem
  tags_char := isTagChar_of_mem_tagged
    (fun c hc => isTagChar_of_isVerbatim (h.option_verbatim c hc))
    fun c hc => isTagChar_of_isVerbatim (h.name_verbatim c hc)

/-- The single option of the field for a relation is read back. -/
theorem options_relationText (h : WritableRelation relation) :
    ((relationText relation).field "gorm").options
      = [(if relation.kind == .manyToMany then "many2many" else "foreignkey",
          relationValue relation)] := by
  have hcolon : ':' ∉ (relationKey relation).toList := by
    unfold relationKey
    split_ifs <;> decide
  have hkey : (readOption (relationKey relation).toList).1
      = if relation.kind == .manyToMany then "many2many" else "foreignkey" := by
    unfold relationKey
    split_ifs <;> decide
  have hne : ((if relation.kind == .manyToMany then "many2many" else "foreignkey") != "")
      = true := by
    split_ifs <;> decide
  have htext : optionText (relationText relation).tags "gorm"
      = (relationKey relation).toList ++ ':' :: (relationValue relation).toList := by
    rw [relationText, optionText_tagged]
  have hpart := isPart_of_plain fun c hc => isPlain_of_isVerbatim (h.option_verbatim c hc)
  rw [FieldText.field, readTag, htext, optionParts, hpart none, List.map_singleton,
    readOption_verbatim hcolon h.value_verbatim, hkey, readValue_of_trim h.value_trim,
    List.filter_singleton, hne]
  rfl

end WritableRelation

end RelSchema.Models
