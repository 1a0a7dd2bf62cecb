import RelSchema.Proofs.Ddl.Key
import RelSchema.Proofs.Ddl.PlainType

/-!
# Round trip of rendered tables

Tables with plain types and simple defaults are written and read back in order, with their names,
columns, types, keys and defaults. Names and quoted defaults may be any texts. What is lost are
references, row counts and relations; what is gained is a declared key where the columns were only
marked.
-/

namespace RelSchema.Ddl

open Sql (SelfContained)

def definitionsOf (keys : List String) (columns : List Column) : List Definition :=
  columns.map .column ++ (if keys.length ≤ 1 then [] else [.primaryKey keys])

def assembled (name : String) (keys : List String) (columns : List Column) : Table :=
  { name
    columns := declareKey (declaredKey keys) columns
    primaryKeys := primaryKeyOrder (declareKey (declaredKey keys) columns) (declaredKey keys) }

theorem keyNames_definitionsOf (keys : List String) (columns : List Column) :
    (definitionsOf keys columns).flatMap Definition.keyNames = declaredKey keys := by
  have hcolumns : (columns.map Definition.column).flatMap Definition.keyNames = [] := by
    rw [List.flatMap_map]
    exact List.flatMap_eq_nil_iff.mpr fun column _ => rfl
  rw [definitionsOf, List.flatMap_append, hcolumns, declaredKey]
  split
  · rfl
  · exact List.append_nil keys

theorem foreign_definitionsOf (keys : List String) (columns : List Column) :
    (definitionsOf keys columns).flatMap Definition.foreign = [] := by
  refine List.flatMap_eq_nil_iff.mpr fun definition hdefinition => ?_
  rcases List.mem_append.mp hdefinition with hcolumn | hkey
  · obtain ⟨column, -, rfl⟩ := List.mem_map.mp hcolumn
    rfl
  · split at hkey
    · cases hkey
    · rw [List.mem_singleton.mp hkey]
      rfl

theorem columns_definitionsOf (keys : List String) (columns : List Column) :
    (definitionsOf keys columns).filterMap Definition.column? = columns := by
  have hcolumns : (columns.map Definition.column).filterMap Definition.column? = columns := by
    rw [List.filterMap_map]
    exact List.filterMap_some
  rw [definitionsOf, List.filterMap_append, hcolumns]
  split
  · exact List.append_nil columns
  · exact List.append_nil columns

theorem assemble_definitionsOf (name : String) (keys : List String) (columns : List Column) :
    assemble name (definitionsOf keys columns) = (assembled name keys columns).checked := by
  rw [assemble, keyNames_definitionsOf, foreign_definitionsOf, columns_definitionsOf]
  rfl

theorem readDefinition_clauseTexts (dialect : Dialect) {table : Table} {read : Column → Column}
    (hcolumns : ∀ column ∈ table.columns,
      readDefinition dialect (columnText dialect table.keyColumns column) = .column (read column)) :
    (clauseTexts dialect table).map (readDefinition dialect)
      = definitionsOf table.keyColumns (table.columns.map read) := by
  have hkey : ((keyClause dialect table.keyColumns).map String.toList).map (readDefinition dialect)
      = if table.keyColumns.length ≤ 1 then [] else [.primaryKey table.keyColumns] := by
    rw [toList_keyClause]
    split
    · rfl
    · rw [List.map_singleton, readDefinition_keyText]
  rw [clauseTexts, List.map_append, hkey, definitionsOf, List.map_map, List.map_map]
  congr 1
  exact List.map_congr_left hcolumns

theorem standing_clauseTexts (dialect : Dialect) {table : Table} (hcolumns : ∀ column ∈
    table.columns, Standing (columnText dialect table.keyColumns column)) :
    ∀ clause ∈ clauseTexts dialect table, Standing clause :=
  forall_mem_clauseTexts hcolumns (standing_keyText dialect table.keyColumns)

/-- Whether a default starts with no single quote and ends in neither a parenthesis nor a line
break. -/
def PlainDefault (value : String) : Prop :=
  value.toList.head? ≠ some '\'' ∧ value.toList.getLast? ≠ some ')' ∧
    value.toList.getLast? ≠ some '\n'

/-- Whether a table has columns of distinct names, plain types and plain defaults, and a key of its
columns. -/
structure Renderable (table : Table) : Prop where
  name_ne : table.name ≠ ""
  columns_ne : table.columns ≠ []
  column_name_ne : ∀ column ∈ table.columns, column.name ≠ ""
  distinct : DistinctFolds table.columnNames
  type_plain : ∀ column ∈ table.columns, column.type = "" ∨
    ∃ word tail, column.type.toList = word ++ tail ∧ PlainType word tail
  keys_nodup : table.primaryKeys.Nodup
  keys_mem : table.primaryKeys ⊆ table.columnNames
  default_plain : ∀ column ∈ table.columns, ∀ value ∈ column.defaultValue, PlainDefault value

/-- A column as it comes back under the key. -/
def restoredColumn (keys : List String) (column : Column) : Column where
  name := column.name
  type := if column.type == "" then "TEXT" else column.type
  isPrimaryKey := keys.contains column.name
  isNullable := column.isNullable && !keys.contains column.name
  defaultValue := column.defaultValue

def restoredTable (table : Table) : Table where
  name := table.name
  columns := table.columns.map (restoredColumn table.keyColumns)
  primaryKeys := table.keyColumns

/-- A clause ends in code if its type does where nothing follows it, and if its default does. -/
theorem endsInCode_modified {type : List Char} (hne : type ≠ []) (mark : Nullability)
    {default? : Option (List Char)}
    (htype : mark = .nullable → default? = none → EndsInCode type)
    (hdefault : ∀ text ∈ default?, text ≠ [] ∧ EndsInCode text) :
    EndsInCode (' ' :: (type ++ modifierPart mark default?)) := by
  intro c hc
  cases default? with
  | some text =>
      obtain ⟨htextNe, hends⟩ := hdefault text rfl
      have hsplit : ' ' :: (type ++ modifierPart mark (some text))
          = (' ' :: type ++ mark.text.toList ++ (' ' :: ("DEFAULT".toList ++ [' ']))) ++ text := by
        simp only [modifierPart, defaultPart, List.cons_append, List.append_assoc, List.nil_append]
      rw [hsplit, List.getLast?_append_of_ne_nil _ htextNe] at hc
      exact hends c hc
  | none =>
      have hsplit : ' ' :: (type ++ modifierPart mark none) = ' ' :: type ++ mark.text.toList := by
        simp only [modifierPart, defaultPart, List.cons_append, List.append_nil]
      rw [hsplit] at hc
      by_cases hmark : mark = .nullable
      · rw [hmark, show Nullability.nullable.text.toList = [] from rfl, List.append_nil,
          List.getLast?_cons_of_ne_nil hne] at hc
        exact htype hmark rfl c hc
      · have hmarks : ∀ mark : Nullability, mark ≠ .nullable →
            mark.text.toList ≠ [] ∧ EndsInCode mark.text.toList := by
          intro mark hmark
          cases mark with
          | primaryKey => decide
          | notNull => decide
          | nullable => exact absurd rfl hmark
        rw [List.getLast?_append_of_ne_nil _ (hmarks mark hmark).1] at hc
        exact (hmarks mark hmark).2 c hc

/-- A plain default is written as one word or in quotes. -/
theorem toList_renderDefault {value : String} (hplain : PlainDefault value) :
    IsSingleWord (renderDefault value).toList ∧ renderDefault value = value ∨
      (renderDefault value).toList = Naming.enclosed '\'' value.toList := by
  obtain ⟨hquote, hparen, hbreak⟩ := hplain
  rw [renderDefault]
  split_ifs with hbare hliteral
  · rcases Bool.or_eq_true_iff.mp hbare with hbare | hbare
    · exact Or.inl ⟨isSingleWord_of_isBare hbare hparen, rfl⟩
    · exact absurd (by simpa using (Bool.and_eq_true_iff.mp hbare).1) hbreak
  · exfalso
    rcases Bool.or_eq_true_iff.mp hliteral with hliteral | hliteral
    · exact hquote (by simpa using hliteral)
    · exact hparen (by simpa using (Bool.and_eq_true_iff.mp hliteral).2)
  · exact Or.inr (String.toList_ofList)

/-- What the text of a plain default is read as. -/
theorem plainDefault_text {value : String} (hplain : PlainDefault value) (dialect : Dialect) :
    SelfContained ',' (renderDefault value).toList ∧ EndsInCode (renderDefault value).toList ∧
      (renderDefault value).toList ≠ [] ∧ tokens dialect (renderDefault value).toList ≠ [] ∧
      readDefault dialect (renderDefault value).toList = value ∧
      reference? (tokens dialect (renderDefault value).toList) = none ∧
      ∀ first second : String,
        hasPair first second (bareWords (tokens dialect (renderDefault value).toList)) = false := by
  rcases toList_renderDefault hplain with ⟨hword, hsame⟩ | henclosed
  · refine ⟨hword.selfContained, hword.trimmed.last, hword.ne_nil, ?_, ?_, ?_, ?_⟩
    · rw [hword.tokens_eq]
      exact List.cons_ne_nil _ _
    · rw [hword.readDefault_eq, String.ofList_toList, hsame]
    · rw [hword.tokens_eq, reference?]
      cases hkeyword : (Sql.Pending.wordToken 0 (renderDefault value).toList.reverse
        (renderDefault value).toList.length).isKeyword ["REFERENCES"] <;> simp [hkeyword]
    · intro first second
      rw [hword.tokens_eq, bareWords_cons_of_word rfl]
      rfl
  · rw [henclosed]
    have htokens := tokens_enclosed dialect value.toList
    refine ⟨.enclosed (by decide) _, ?_, by simp [Naming.enclosed], ?_, ?_, ?_, ?_⟩
    · intro c hc
      rw [Naming.enclosed, List.getLast?_append] at hc
      cases hc
      decide
    · rw [htokens]
      exact List.cons_ne_nil _ _
    · rw [readDefault_enclosed, String.ofList_toList]
    · rw [htokens]
      rfl
    · intro first second
      rw [htokens]
      rfl

def markedColumn (mark : Nullability) (column : Column) : Column where
  name := column.name
  type := if column.type == "" then "TEXT" else column.type
  isPrimaryKey := mark == .primaryKey
  isNullable := mark == .nullable
  defaultValue := column.defaultValue

def markedText (dialect : Dialect) (mark : Nullability) (column : Column) : List Char :=
  clauseText dialect column.name.toList (typeText column) mark (defaultText? column)

def describedColumn (keys : List String) (column : Column) : Column where
  name := column.name
  type := if column.type == "" then "TEXT" else column.type
  isPrimaryKey := nullability keys column == .primaryKey
  isNullable := nullability keys column == .nullable
  defaultValue := column.defaultValue

theorem typeText_plain {column : Column} (htype : column.type = "" ∨
    ∃ word tail, column.type.toList = word ++ tail ∧ PlainType word tail) :
    ∃ word tail, typeText column = word ++ tail ∧ PlainType word tail := by
  rcases htype with hempty | ⟨word, tail, htext, hplain⟩
  · refine ⟨"TEXT".toList, [], ?_, plainType_text⟩
    rw [typeText, hempty, List.append_nil]
    rfl
  · refine ⟨word, tail, ?_, hplain⟩
    have hne : (column.type == "") = false := by
      rw [beq_eq_false_iff_ne]
      intro hnil
      rw [hnil] at htext
      exact hplain.ne_nil (List.append_eq_nil_iff.mp htext.symm).1
    rw [typeText, hne, ← htext]
    rfl

theorem ofList_typeText (column : Column) :
    String.ofList (typeText column) = if column.type == "" then "TEXT" else column.type := by
  rw [typeText]
  split <;> exact String.ofList_toList

section Column

variable {dialect : Dialect} {mark : Nullability} {keys : List String} {column : Column}
  (hname : column.name ≠ "") (htype : column.type = "" ∨
    ∃ word tail, column.type.toList = word ++ tail ∧ PlainType word tail)
  (hdefault : ∀ value ∈ column.defaultValue, PlainDefault value)

include htype hdefault

theorem standing_markedText : Standing (markedText dialect mark column) := by
  obtain ⟨word, tail, htext, hplain⟩ := typeText_plain htype
  refine standing_clauseText dialect column.name.toList mark ?_ ?_ ?_
  · rw [htext]
    exact hplain.selfContained
  · intro text htext'
    obtain ⟨value, hvalue, rfl⟩ := Option.map_eq_some_iff.mp htext'
    exact (plainDefault_text (hdefault value hvalue) dialect).1
  · rw [htext]
    refine endsInCode_modified (by simp [hplain.ne_nil]) _ (fun _ _ => hplain.endsInCode) ?_
    intro text htext'
    obtain ⟨value, hvalue, rfl⟩ := Option.map_eq_some_iff.mp htext'
    obtain ⟨-, hends, hne, -⟩ := plainDefault_text (hdefault value hvalue) dialect
    exact ⟨hne, hends⟩

theorem standing_columnText : Standing (columnText dialect keys column) :=
  standing_markedText htype hdefault

include hname

theorem readDefinition_markedText :
    readDefinition dialect (markedText dialect mark column) = .column (markedColumn mark column) := by
  obtain ⟨word, tail, htext, hplain⟩ := typeText_plain htype
  have htokens : ∀ text ∈ defaultText? column, tokens dialect text ≠ [] := by
    intro text htext'
    obtain ⟨value, hvalue, rfl⟩ := Option.map_eq_some_iff.mp htext'
    exact (plainDefault_text (hdefault value hvalue) dialect).2.2.2.1
  have hname' : column.name.toList ≠ [] := by simpa using hname
  have hread := readDefinition_clauseText dialect mark hname'
    hplain.ne_nil hplain.isWordPart (not_isWordPart_head?_plainTail hplain.tail)
    hplain.tail.typeTail.1 htokens
  have hserial : serialTypes.contains (Text.upper (.ofList word)) = false := by
    simpa using hplain.not_serial
  have hpairs : ∀ first second : String,
      hasPair first second (defaultWords dialect (defaultText? column)) = false := by
    intro first second
    cases hvalue : column.defaultValue with
    | none => simp [defaultText?, hvalue, defaultWords, hasPair]
    | some value =>
        have hpair := (plainDefault_text (hdefault value hvalue) dialect).2.2.2.2.2.2 first second
        simpa [defaultText?, hvalue, defaultWords] using hpair
  have hreference : ((defaultText? column).bind fun text => reference? (tokens dialect text))
      = none := by
    cases hvalue : column.defaultValue with
    | none => simp [defaultText?, hvalue]
    | some value =>
        have hnone := (plainDefault_text (hdefault value hvalue) dialect).2.2.2.2.2.1
        simpa [defaultText?, hvalue] using hnone
  have hvalues : (defaultText? column).map (readDefault dialect) = column.defaultValue := by
    cases hvalue : column.defaultValue with
    | none => simp [defaultText?, hvalue]
    | some value =>
        have hsame := (plainDefault_text (hdefault value hvalue) dialect).2.2.2.2.1
        simpa [defaultText?, hvalue] using hsame
  rw [markedText, htext, hread, clauseColumn, hreference, hvalues, String.ofList_toList, hpairs,
    hpairs, hserial, ← htext, ofList_typeText]
  cases mark <;> simp [markedColumn]

theorem readDefinition_columnText :
    readDefinition dialect (columnText dialect keys column)
      = .column (describedColumn keys column) :=
  readDefinition_markedText hname htype hdefault

end Column

theorem keyColumns_subset {table : Table} (hkeys : table.primaryKeys ⊆ table.columnNames) :
    table.keyColumns ⊆ table.columnNames := by
  rw [Table.keyColumns]
  split
  · exact List.map_subset _ (List.filter_subset_self _)
  · exact hkeys

theorem keyColumns_nodup {table : Table} (hdistinct : DistinctFolds table.columnNames)
    (hkeys : table.primaryKeys.Nodup) : table.keyColumns.Nodup := by
  rw [Table.keyColumns]
  split
  · exact hdistinct.nodup.sublist (List.filter_sublist.map _)
  · exact hkeys

/-- Under its key, what the clause of a column describes is the column as it comes back. -/
theorem underKey_describedColumn {names keys : List String} (hdistinct : DistinctFolds names)
    (hkeys : keys ⊆ names) {column : Column} (hcolumn : column.name ∈ names) :
    underKey keys (describedColumn keys column) = restoredColumn keys column := by
  have hany : keys.any (Text.sameFold column.name) = keys.contains column.name := by
    rw [Bool.eq_iff_iff, hdistinct.any_sameFold_iff hkeys hcolumn, List.contains_iff_mem]
  by_cases hmem : column.name ∈ keys
  · by_cases hshort : keys.length ≤ 1
    · simp [underKey, describedColumn, restoredColumn, nullability, hany, hmem, hshort]
    · simp [underKey, describedColumn, restoredColumn, nullability, hany, hmem, hshort,
        Column.asPrimaryKey]
  · by_cases hshort : keys.length ≤ 1
    · cases hnullable : column.isNullable <;>
        simp [underKey, describedColumn, restoredColumn, nullability, hany, hmem, hshort, hnullable]
    · cases hnullable : column.isNullable <;>
        simp [underKey, describedColumn, restoredColumn, nullability, hany, hmem, hshort, hnullable]

theorem assemble_renderable {dialect : Dialect} {table : Table} (h : Renderable table) :
    assemble table.name ((clauseTexts dialect table).map (readDefinition dialect))
      = .ok (restoredTable table) := by
  have hkeys := keyColumns_subset h.keys_mem
  have hnames : (table.columns.map (describedColumn table.keyColumns)).map (·.name)
      = table.columnNames := by
    rw [List.map_map]
    rfl
  have hread := readDefinition_clauseTexts dialect fun column hcolumn =>
      readDefinition_columnText (h.column_name_ne column hcolumn) (h.type_plain column hcolumn)
        (h.default_plain column hcolumn)
  have hcolumns : declareKey (declaredKey table.keyColumns)
      (table.columns.map (describedColumn table.keyColumns))
      = table.columns.map (restoredColumn table.keyColumns) := by
    rw [declareKey_declaredKey (by rw [hnames]; exact h.distinct) (by rw [hnames]; exact hkeys),
      List.map_map]
    exact List.map_congr_left fun column hcolumn =>
      underKey_describedColumn h.distinct hkeys (List.mem_map_of_mem hcolumn)
  have horder : primaryKeyOrder ((table.columns.map (describedColumn table.keyColumns)).map
      (underKey table.keyColumns)) (declaredKey table.keyColumns) = table.keyColumns := by
    refine primaryKeyOrder_eq (by rw [hnames]; exact h.distinct)
      (keyColumns_nodup h.distinct h.keys_nodup) (by rw [hnames]; exact hkeys) ?_
    intro hshort described hdescribed
    obtain ⟨column, hcolumn, rfl⟩ := List.mem_map.mp hdescribed
    have hsame := underKey_describedColumn h.distinct hkeys
      (List.mem_map_of_mem hcolumn)
    rw [underKey, if_pos hshort] at hsame
    rw [hsame]
    simp [restoredColumn]
  rw [declareKey_declaredKey (by rw [hnames]; exact h.distinct) (by rw [hnames]; exact hkeys)]
    at hcolumns
  rw [hread, assemble_definitionsOf, Table.checked_eq_ok_iff, assembled,
    declareKey_declaredKey (by rw [hnames]; exact h.distinct) (by rw [hnames]; exact hkeys),
    horder, hcolumns]
  refine ⟨rfl, ?_, by simp⟩
  intro column hcolumn
  obtain ⟨original, -, rfl⟩ := List.mem_map.mp hcolumn
  rfl

theorem parse_dialectName (script : String) (dialect : Dialect) :
    parse script (some dialect.name) = scriptTables dialect script := by
  have hdialect : Dialect.ofOptionalName (some dialect.name) = .ok (some dialect) := by
    cases dialect <;> decide
  rw [parse, dialectFor, hdialect]
  rfl

/-- Rendered tables are read back in order, each with its name, columns, types, key and defaults. -/
theorem parse_renderTables (dialect : Dialect) {tables : List Table}
    (h : ∀ table ∈ tables, Renderable table) :
    parse (renderTables dialect tables) (some dialect.name) = .ok (tables.map restoredTable) := by
  rw [parse_dialectName]
  induction tables with
  | nil => exact scriptTables_renderTables_nil dialect
  | cons table tables ih =>
      have htable := h table List.mem_cons_self
      have hne : clauseTexts dialect table ≠ [] := by
        simp [clauseTexts, htable.columns_ne]
      have hstanding := standing_clauseTexts dialect fun column hcolumn =>
        standing_columnText (htable.type_plain column hcolumn) (htable.default_plain column hcolumn)
      rw [tablesIn_renderTables_cons dialect tables htable.name_ne hne hstanding,
        assemble_renderable htable, ih fun other hother => h other (List.mem_cons_of_mem table hother)]
      rfl

/-- A table whose names and texts look like syntax. -/
def ledger : Table where
  name := "it's; \"new\""
  columns := [
    { name := "id, (key)", type := "INT", isPrimaryKey := true },
    { name := "rate", type := "DOUBLE precision", isNullable := false, defaultValue := some "-1.5" },
    { name := "note", type := "VARCHAR(20)", defaultValue := some "a, b); -- c" },
    { name := "free", defaultValue := some "current_date" }]

theorem renderable_ledger : Renderable ledger where
  name_ne := by decide
  columns_ne := by decide
  column_name_ne := by decide
  distinct := by
    unfold DistinctFolds
    decide
  type_plain := by
    have hphrase : Phrase ["PRECISION"] (' ' :: ("precision".toList ++ [])) :=
      .cons (by decide) .nil
    have hgroup : PlainTail ('(' :: "20".toList ++ ')' :: []) :=
      .group (by decide) (by decide) (by decide) .nil
    have hint : PlainType "INT".toList [] :=
      plainType_of_word (by decide) (by decide) (by decide) (by decide) (by decide) .nil
    have hdouble : PlainType "DOUBLE".toList (' ' :: ("precision".toList ++ []) ++ []) :=
      plainType_of_word (by decide) (by decide) (by decide) (by decide) (by decide)
        (.phrase (by decide) hphrase .nil)
    have hvarchar : PlainType "VARCHAR".toList ('(' :: "20".toList ++ ')' :: []) :=
      plainType_of_word (by decide) (by decide) (by decide) (by decide) (by decide) hgroup
    intro column hcolumn
    simp only [ledger, List.mem_cons, List.not_mem_nil, or_false] at hcolumn
    rcases hcolumn with rfl | rfl | rfl | rfl
    · exact Or.inr ⟨_, _, by decide, hint⟩
    · exact Or.inr ⟨_, _, by decide, hdouble⟩
    · exact Or.inr ⟨_, _, by decide, hvarchar⟩
    · exact Or.inl rfl
  keys_nodup := by decide
  keys_mem := by decide
  default_plain := by
    unfold PlainDefault
    decide

theorem parse_renderTables_ledger :
    Renderable ledger ∧
      parse (renderTables .mysql [ledger]) (some "mysql") = .ok [restoredTable ledger] := by
  have hledger : ∀ table ∈ [ledger], Renderable table := by
    intro table htable
    rw [List.mem_singleton.mp htable]
    exact renderable_ledger
  exact ⟨renderable_ledger, parse_renderTables .mysql hledger⟩

end RelSchema.Ddl
