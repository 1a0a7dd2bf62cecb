import RelSchema.Proofs.Ddl.Coherent
import RelSchema.Proofs.Ddl.RawDefault
import RelSchema.Proofs.Ddl.RoundTrip

/-!
# Columns that come back

A column of a script that is written and read back comes back up to its reference if its clause
stands for itself and if what is read from its default gives nothing but the default. Only defaults
that are written without quotes of their own can fail either condition.
-/

namespace RelSchema.Ddl

open Sql (SelfContained)

def rawDefault? (column : Column) : Option String :=
  column.defaultValue.filter fun value => renderDefault value == value

theorem renderDefault_cases (value : String) :
    renderDefault value = value ∨
      renderDefault value ≠ value ∧ (renderDefault value).toList = Naming.enclosed '\'' value.toList := by
  by_cases hsame : renderDefault value = value
  · exact Or.inl hsame
  · refine Or.inr ⟨hsame, ?_⟩
    rw [renderDefault] at hsame ⊢
    split_ifs at hsame ⊢
    · exact absurd rfl hsame
    · exact absurd rfl hsame
    · exact String.toList_ofList

/-- A column has no default, one that is written as it is, or one in quotes. -/
theorem default_cases (column : Column) :
    (column.defaultValue = none ∧ defaultText? column = none ∧ rawDefault? column = none) ∨
      (∃ value, column.defaultValue = some value ∧ defaultText? column = some value.toList ∧
        rawDefault? column = some value) ∨
      ∃ value, column.defaultValue = some value ∧
        defaultText? column = some (Naming.enclosed '\'' value.toList) ∧ rawDefault? column = none := by
  cases hvalue : column.defaultValue with
  | none => exact Or.inl ⟨rfl, by rw [defaultText?, hvalue]; rfl, by rw [rawDefault?, hvalue]; rfl⟩
  | some value =>
      rcases renderDefault_cases value with hsame | ⟨hne, henclosed⟩
      · refine Or.inr (Or.inl ⟨value, rfl, ?_, ?_⟩)
        · rw [defaultText?, hvalue, Option.map_some, hsame]
        · rw [rawDefault?, hvalue, Option.filter_some_pos (by simpa using hsame)]
      · refine Or.inr (Or.inr ⟨value, rfl, ?_, ?_⟩)
        · rw [defaultText?, hvalue, Option.map_some, henclosed]
        · rw [rawDefault?, hvalue, Option.filter_some_neg (by simpa using hne)]

theorem defaultText_cases {column : Column} {text : List Char} (h : text ∈ defaultText? column) :
    (∃ value, rawDefault? column = some value ∧ text = value.toList) ∨
      ∃ value : String, text = Naming.enclosed '\'' value.toList := by
  rcases default_cases column with ⟨-, hnone, -⟩ | ⟨value, -, hsome, hraw⟩ | ⟨value, -, hsome, -⟩
  · rw [hnone] at h
    cases h
  · rw [hsome] at h
    exact Or.inl ⟨value, hraw, (Option.mem_some_iff.mp h).symm⟩
  · rw [hsome] at h
    exact Or.inr ⟨value, (Option.mem_some_iff.mp h).symm⟩

/-- Whether the clause of a column stands for itself. -/
structure Sealed (column : Column) : Prop where
  type_ends : column.isNullable = true → column.defaultValue = none → EndsInCode column.type.toList
  contained : ∀ value ∈ rawDefault? column, SelfContained ',' value.toList
  ends : ∀ value ∈ rawDefault? column, EndsInCode value.toList

/-- Whether the clause of a column under a key says no more than the column does: a serial type and
the words of its default mark a column too. -/
structure Restored (dialect : Dialect) (keys : List String) (column : Column) : Prop where
  serial : isSerial column.type = true → column.isPrimaryKey = true ∨ 1 < keys.length
  reads : ∀ value ∈ rawDefault? column, readDefault dialect value.toList = value
  key_words : ∀ value ∈ rawDefault? column,
    hasPair "PRIMARY" "KEY" (bareWords (tokens dialect value.toList)) = true →
      column.isPrimaryKey = true ∨ 1 < keys.length ∧ column.isNullable = false
  null_words : ∀ value ∈ rawDefault? column,
    hasPair "NOT" "NULL" (bareWords (tokens dialect value.toList)) = true →
      column.isNullable = false
  reference : ∀ value ∈ rawDefault? column,
    ∀ reference ∈ reference? (tokens dialect value.toList), reference.table ≠ ""

/-- Whether a column comes back from its clause under a key, up to its reference. -/
structure Settled (dialect : Dialect) (keys : List String) (column : Column) : Prop where
  is_sealed : Sealed column
  restored : Restored dialect keys column

section Default

variable {dialect : Dialect} {column : Column}

theorem map_readDefault_iff :
    (defaultText? column).map (readDefault dialect) = column.defaultValue ↔
      ∀ value ∈ rawDefault? column, readDefault dialect value.toList = value := by
  rcases default_cases column with ⟨hvalue, htext, hraw⟩ | ⟨value, hvalue, htext, hraw⟩ |
    ⟨value, hvalue, htext, hraw⟩
  · simp [hvalue, htext, hraw]
  · simp [hvalue, htext, hraw]
  · simp [hvalue, htext, hraw, readDefault_enclosed]

theorem hasPair_defaultWords_iff {first second : String} :
    hasPair first second (defaultWords dialect (defaultText? column)) = true ↔
      ∃ value ∈ rawDefault? column,
        hasPair first second (bareWords (tokens dialect value.toList)) = true := by
  rcases default_cases column with ⟨-, htext, hraw⟩ | ⟨value, -, htext, hraw⟩ |
    ⟨value, -, htext, hraw⟩
  · simp [htext, hraw, defaultWords, hasPair]
  · simp [htext, hraw, defaultWords]
  · rw [htext, hraw, defaultWords, Option.map_some, tokens_enclosed]
    simp [bareWords, hasPair, Sql.Pending.runToken]

theorem reference?_defaultText?_iff {reference : Reference} :
    ((defaultText? column).bind fun text => reference? (tokens dialect text)) = some reference ↔
      ∃ value ∈ rawDefault? column, reference? (tokens dialect value.toList) = some reference := by
  rcases default_cases column with ⟨-, htext, hraw⟩ | ⟨value, -, htext, hraw⟩ |
    ⟨value, -, htext, hraw⟩
  · simp [htext, hraw]
  · simp [htext, hraw]
  · rw [htext, hraw, Option.bind_some, tokens_enclosed]
    simp [reference?, Sql.Token.isKeyword, Sql.Pending.runToken]

end Default

/-- The column that is read from the clause of a column under a key. -/
def foundColumn (dialect : Dialect) (keys : List String) (column : Column) : Column :=
  clauseColumn dialect column.name (firstWord column.type) column.type.toList
    (nullability keys column) (defaultText? column)

theorem serialTypes_contains_firstWord (type : String) :
    serialTypes.contains (Text.upper (.ofList (firstWord type))) = isSerial type := rfl

theorem withoutReference_foundColumn (dialect : Dialect) (keys : List String) (column : Column) :
    (foundColumn dialect keys column).withoutReference = Column.withoutReference {
      name := column.name
      type := column.type
      isPrimaryKey := nullability keys column == .primaryKey ||
        hasPair "PRIMARY" "KEY" (defaultWords dialect (defaultText? column)) ||
        isSerial column.type
      isNullable := !(nullability keys column == .primaryKey ||
        hasPair "PRIMARY" "KEY" (defaultWords dialect (defaultText? column)) ||
        isSerial column.type ||
        (nullability keys column == .notNull ||
          hasPair "NOT" "NULL" (defaultWords dialect (defaultText? column))))
      defaultValue := (defaultText? column).map (readDefault dialect) } := by
  rw [foundColumn, clauseColumn, serialTypes_contains_firstWord, String.ofList_toList]
  split <;> rfl

theorem consistent_clauseColumn_iff {dialect : Dialect} {name : String} {word type : List Char}
    {mark : Nullability} {default? : Option (List Char)} :
    (clauseColumn dialect name word type mark default?).Consistent ↔
      ∀ reference, (default?.bind fun text => reference? (tokens dialect text)) = some reference →
        reference.table ≠ "" := by
  rw [clauseColumn]
  cases hreference : default?.bind fun text => reference? (tokens dialect text) with
  | none => simp [Column.Consistent, isGiven]
  | some reference => simp [Column.Consistent, isGiven, Column.asForeignKey]

theorem consistent_underKey_iff {keys : List String} {column : Column} :
    (underKey keys column).Consistent ↔ column.Consistent := by
  rw [underKey]
  split_ifs <;> exact Iff.rfl

section Clause

variable {dialect : Dialect} {keys : List String} {column : Column}
  (hparsed : ParsedColumn column) (hmark : column.isPrimaryKey = decide (column.name ∈ keys))
  (hany : keys.any (Text.sameFold column.name) = decide (column.name ∈ keys))

include hparsed hmark hany

/-- The marks of a column come back unless its type or its default marks it, too. -/
theorem marks_underKey_iff :
    (underKey keys (foundColumn dialect keys column)).isPrimaryKey = column.isPrimaryKey ∧
        (underKey keys (foundColumn dialect keys column)).isNullable = column.isNullable ↔
      (isSerial column.type = true → column.isPrimaryKey = true ∨ 1 < keys.length) ∧
        (hasPair "PRIMARY" "KEY" (defaultWords dialect (defaultText? column)) = true →
          column.isPrimaryKey = true ∨ 1 < keys.length ∧ column.isNullable = false) ∧
        (hasPair "NOT" "NULL" (defaultWords dialect (defaultText? column)) = true →
          column.isNullable = false) := by
  obtain ⟨hname, -, -, hkey, hnull, -⟩ :=
    Column.withoutReference_eq_iff.mp (withoutReference_foundColumn dialect keys column)
  have hserial := hparsed.serial
  have hmarked := hparsed.marked
  rw [hmark] at hmarked ⊢
  rw [underKey, hname]
  generalize hasPair "PRIMARY" "KEY" (defaultWords dialect (defaultText? column)) = primary at *
  generalize hasPair "NOT" "NULL" (defaultWords dialect (defaultText? column)) = notNull at *
  generalize isSerial column.type = serial at *
  by_cases hshort : keys.length ≤ 1
  · have hlong : ¬ 1 < keys.length := by omega
    rw [if_pos hshort, hkey, hnull, nullability, hany]
    by_cases hmem : column.name ∈ keys <;> cases hnullable : column.isNullable <;>
      cases primary <;> cases notNull <;> cases serial <;> simp_all
  · have hlong : 1 < keys.length := by omega
    rw [if_neg hshort]
    by_cases hmem : column.name ∈ keys
    · simp_all [Column.asPrimaryKey]
    · rw [if_neg hmem, hnull, nullability, hany]
      cases hnullable : column.isNullable <;>
        cases primary <;> cases notNull <;> cases serial <;> simp_all

/-- A column comes back from its clause, without a nameless reference, exactly if it is restored. -/
theorem restored_iff :
    (underKey keys (foundColumn dialect keys column)).withoutReference = column.withoutReference ∧
        (underKey keys (foundColumn dialect keys column)).Consistent ↔
      Restored dialect keys column := by
  obtain ⟨hname', htype', hdeclared', -, -, hdefault'⟩ :=
    Column.withoutReference_eq_iff.mp (withoutReference_foundColumn dialect keys column)
  have hmarks := @marks_underKey_iff dialect keys column hparsed hmark hany
  have hname : (underKey keys (foundColumn dialect keys column)).name = column.name := by
    rw [name_underKey, hname']
  have hkeep : ∀ found : Column, (underKey keys found).type = found.type ∧
      (underKey keys found).declaredType = found.declaredType ∧
      (underKey keys found).defaultValue = found.defaultValue := by
    intro found
    rw [underKey]
    split_ifs <;> exact ⟨rfl, rfl, rfl⟩
  obtain ⟨htype, hdeclared, hdefault⟩ := hkeep (foundColumn dialect keys column)
  have hpair : ∀ (first second : String) (claim : Prop),
      (hasPair first second (defaultWords dialect (defaultText? column)) = true → claim) ↔
        ∀ value ∈ rawDefault? column,
          hasPair first second (bareWords (tokens dialect value.toList)) = true → claim := by
    intro first second claim
    rw [hasPair_defaultWords_iff]
    constructor
    · exact fun h value hvalue hpair => h ⟨value, hvalue, hpair⟩
    · rintro h ⟨value, hvalue, hpair⟩
      exact h value hvalue hpair
  have hreference : (foundColumn dialect keys column).Consistent ↔ ∀ value ∈ rawDefault? column,
      ∀ reference ∈ reference? (tokens dialect value.toList), reference.table ≠ "" := by
    rw [foundColumn, consistent_clauseColumn_iff]
    simp only [reference?_defaultText?_iff]
    constructor
    · exact fun h value hvalue reference hreference => h reference ⟨value, hvalue, hreference⟩
    · rintro h reference ⟨value, hvalue, hreference⟩
      exact h value hvalue reference hreference
  rw [hpair, hpair] at hmarks
  rw [Column.withoutReference_eq_iff, consistent_underKey_iff, hreference, hname, htype, htype',
    hdeclared, hdeclared', hdefault, hdefault', hparsed.undeclared, map_readDefault_iff]
  constructor
  · rintro ⟨⟨-, -, -, hkey, hnull, hreads⟩, hnamed⟩
    obtain ⟨hserial, hprimary, hnotNull⟩ := hmarks.mp ⟨hkey, hnull⟩
    exact ⟨hserial, hreads, hprimary, hnotNull, hnamed⟩
  · rintro ⟨hserial, hreads, hprimary, hnotNull, hnamed⟩
    obtain ⟨hkey, hnull⟩ := hmarks.mpr ⟨hserial, hprimary, hnotNull⟩
    exact ⟨⟨rfl, rfl, rfl, hkey, hnull, hreads⟩, hnamed⟩

end Clause

theorem renderDefault_of_rawDefault? {column : Column} {value : String}
    (h : rawDefault? column = some value) : renderDefault value = value := by
  obtain ⟨-, hsame⟩ := Option.filter_eq_some_iff.mp h
  simpa using hsame

theorem StartsPlainly.ne_nil {text : List Char} (h : StartsPlainly text) : text ≠ [] := by
  obtain ⟨c, rest, rfl, -⟩ := h
  exact List.cons_ne_nil c rest

theorem defaultText?_ne_nil (dialect : Dialect) (column : Column) :
    ∀ text ∈ defaultText? column, text ≠ [] ∧ tokens dialect text ≠ [] := by
  intro text htext
  obtain ⟨value, hraw, rfl⟩ | ⟨value, rfl⟩ := defaultText_cases htext
  · have hstarts := startsPlainly_of_renderDefault (renderDefault_of_rawDefault? hraw)
    exact ⟨hstarts.ne_nil, tokens_ne_nil hstarts.ne_nil hstarts.isBlank_head?⟩
  · refine ⟨by simp [Naming.enclosed], ?_⟩
    rw [tokens_enclosed]
    exact List.cons_ne_nil _ _

theorem isNullable_of_nullability {keys : List String} {column : Column}
    (h : nullability keys column = .nullable) : column.isNullable = true := by
  rw [nullability] at h
  split_ifs at h with hsingle hkey
  simp only [Bool.or_eq_true, Bool.not_eq_true', not_or] at hkey
  simpa using hkey.2

section Parsed

variable {dialect : Dialect} {keys : List String} {column : Column} (hparsed : ParsedColumn column)

include hparsed

theorem typeText_parsed : typeText column = column.type.toList := by
  obtain ⟨word, tail, htext, hread⟩ := hparsed.read_type
  rw [typeText, if_neg]
  intro hempty
  rw [show column.type = "" by simpa using hempty] at htext
  exact hread.ne_nil (List.append_eq_nil_iff.mp htext.symm).1

theorem readDefinition_parsed :
    readDefinition dialect (columnText dialect keys column)
      = .column (foundColumn dialect keys column) := by
  obtain ⟨word, tail, htext, hread⟩ := hparsed.read_type
  have hname : column.name.toList ≠ [] := by simpa using hparsed.name_ne
  have hclause := readDefinition_clauseText dialect (nullability keys column)
    hname hread.ne_nil hread.code hread.head hread.goes_on
    fun text htext => (defaultText?_ne_nil dialect column text htext).2
  rw [columnText, typeText_parsed hparsed, htext, hclause, foundColumn, hread.firstWord_eq htext,
    htext, String.ofList_toList]

theorem Sealed.standing (hsealed : Sealed column) : Standing (columnText dialect keys column) := by
  obtain ⟨word, tail, htext, hread⟩ := hparsed.read_type
  have hdefault : ∀ text ∈ defaultText? column, SelfContained ',' text ∧ EndsInCode text := by
    intro text htext
    obtain ⟨value, hraw, rfl⟩ | ⟨value, rfl⟩ := defaultText_cases htext
    · exact ⟨hsealed.contained value hraw, hsealed.ends value hraw⟩
    · refine ⟨.enclosed (by decide) value.toList, fun c hc => ?_⟩
      rw [Naming.enclosed, List.getLast?_append] at hc
      cases hc
      decide
  have htype : column.type.toList ≠ [] := by
    rw [htext]
    exact List.append_ne_nil_of_left_ne_nil hread.ne_nil tail
  rw [columnText, typeText_parsed hparsed]
  refine standing_clauseText dialect column.name.toList (nullability keys column) ?_
    (fun text htext => (hdefault text htext).1) ?_
  · rw [htext]
    exact hread.contained
  · refine endsInCode_modified htype _ (fun hmark hnone => ?_) fun text htext =>
      ⟨(defaultText?_ne_nil dialect column text htext).1, (hdefault text htext).2⟩
    exact hsealed.type_ends (isNullable_of_nullability hmark)
      (Option.map_eq_none_iff.mp hnone)

end Parsed

theorem map_eq_ok_iff {ε α β : Type} {attempt : Except ε α} {f : α → β} {b : β} :
    attempt.map f = .ok b ↔ ∃ a, attempt = .ok a ∧ f a = b := by
  cases attempt with
  | error failure => simp [Except.map]
  | ok a => simp [Except.map]

theorem exists_cons_of_map_eq_ok {ε α β : Type} {attempt : Except ε (List α)} {f : α → β} {b : β}
    {bs : List β} (h : attempt.map (List.map f) = .ok (b :: bs)) :
    ∃ a as, attempt = .ok (a :: as) ∧ f a = b ∧ as.map f = bs := by
  obtain ⟨read, hread, hsame⟩ := map_eq_ok_iff.mp h
  obtain ⟨a, as, rfl, ha, has⟩ := List.map_eq_cons_iff.mp hsame
  exact ⟨a, as, hread, ha, has⟩

theorem names_foundColumn (dialect : Dialect) (keys : List String) (columns : List Column) :
    (columns.map (foundColumn dialect keys)).map (·.name) = columns.map (·.name) := by
  rw [List.map_map]
  refine List.map_congr_left fun column _ => ?_
  exact (Column.withoutReference_eq_iff.mp (withoutReference_foundColumn dialect keys column)).1

section Assembled

variable {dialect : Dialect} {table : Table} (hparsed : ParsedTable table)
  (hcoherent : Coherent table)

include hcoherent

theorem distinctFolds_foundColumn :
    DistinctFolds ((table.columns.map (foundColumn dialect table.primaryKeys)).map (·.name)) := by
  rw [names_foundColumn]
  exact hcoherent.distinct

theorem subset_foundColumn : table.primaryKeys ⊆
    (table.columns.map (foundColumn dialect table.primaryKeys)).map (·.name) := by
  rw [names_foundColumn]
  exact hcoherent.subset

theorem columns_assembled_foundColumn :
    (assembled table.name table.primaryKeys
        (table.columns.map (foundColumn dialect table.primaryKeys))).columns
      = table.columns.map fun column =>
        underKey table.primaryKeys (foundColumn dialect table.primaryKeys column) := by
  rw [assembled, declareKey_declaredKey (distinctFolds_foundColumn hcoherent)
    (subset_foundColumn hcoherent), List.map_map]
  rfl

include hparsed

theorem underKey_foundColumn_iff {column : Column} (hcolumn : column ∈ table.columns) :
    ((underKey table.primaryKeys (foundColumn dialect table.primaryKeys column)).withoutReference
        = column.withoutReference ∧
      (underKey table.primaryKeys (foundColumn dialect table.primaryKeys column)).Consistent) ↔
      Restored dialect table.primaryKeys column := by
  refine restored_iff (hparsed.parsed_columns column hcolumn) (hcoherent.marked column hcolumn) ?_
  rw [Bool.eq_iff_iff, hcoherent.distinct.any_sameFold_iff hcoherent.subset
    (List.mem_map_of_mem hcolumn), decide_eq_true_iff]

theorem primaryKeys_assembled_foundColumn
    (hrestored : ∀ column ∈ table.columns, Restored dialect table.primaryKeys column) :
    (assembled table.name table.primaryKeys
      (table.columns.map (foundColumn dialect table.primaryKeys))).primaryKeys
        = table.primaryKeys := by
  rw [assembled, declareKey_declaredKey (distinctFolds_foundColumn hcoherent)
    (subset_foundColumn hcoherent)]
  refine primaryKeyOrder_eq (distinctFolds_foundColumn hcoherent) hcoherent.nodup
    (subset_foundColumn hcoherent) fun hshort read hread => ?_
  obtain ⟨column, hcolumn, rfl⟩ := List.mem_map.mp hread
  have hsame :=
    ((underKey_foundColumn_iff hparsed hcoherent hcolumn).mpr (hrestored column hcolumn)).1
  rw [underKey, if_pos hshort] at hsame
  obtain ⟨hname, -, -, hmark, -⟩ := Column.withoutReference_eq_iff.mp hsame
  rw [hname, hmark, hcoherent.marked column hcolumn]

/-- What is read from the clauses of a table is the table up to references exactly if its columns
are restored. -/
theorem assemble_foundColumn_iff :
    (assemble table.name (definitionsOf table.primaryKeys
        (table.columns.map (foundColumn dialect table.primaryKeys)))).map Table.withoutReferences
      = .ok table.withoutReferences ↔
      ∀ column ∈ table.columns, Restored dialect table.primaryKeys column := by
  rw [assemble_definitionsOf, map_eq_ok_iff]
  constructor
  · rintro ⟨read, hread, hsame⟩ column hcolumn
    obtain ⟨rfl, hconsistent, -⟩ := Table.checked_eq_ok_iff.mp hread
    have hmap : (assembled table.name table.primaryKeys (table.columns.map
          (foundColumn dialect table.primaryKeys))).columns.map Column.withoutReference
        = table.columns.map Column.withoutReference := congrArg Table.columns hsame
    rw [columns_assembled_foundColumn hcoherent, List.map_map] at hmap
    refine (underKey_foundColumn_iff hparsed hcoherent hcolumn).mp
      ⟨List.map_inj_left.mp hmap column hcolumn, hconsistent _ ?_⟩
    rw [columns_assembled_foundColumn hcoherent]
    exact List.mem_map_of_mem hcolumn
  · intro h
    have hfound : ∀ column ∈ table.columns, _ := fun column hcolumn =>
      (underKey_foundColumn_iff hparsed hcoherent hcolumn).mpr (h column hcolumn)
    refine ⟨_, Table.checked_eq_ok_iff.mpr ⟨rfl, ?_, by simp [assembled]⟩, ?_⟩
    · intro read hread
      rw [columns_assembled_foundColumn hcoherent] at hread
      obtain ⟨column, hcolumn, rfl⟩ := List.mem_map.mp hread
      exact (hfound column hcolumn).2
    · have hmap : (assembled table.name table.primaryKeys (table.columns.map
            (foundColumn dialect table.primaryKeys))).columns.map Column.withoutReference
          = table.columns.map Column.withoutReference := by
        rw [columns_assembled_foundColumn hcoherent, List.map_map]
        exact List.map_congr_left fun column hcolumn => (hfound column hcolumn).1
      rw [Table.withoutReferences, hmap, primaryKeys_assembled_foundColumn hparsed hcoherent h,
        Table.withoutReferences, hparsed.relations_nil, hparsed.uncounted]
      rfl

end Assembled

/-- Whether a table can come from a script and its key agrees with its marks. -/
structure Regular (table : Table) : Prop where
  parsed : ParsedTable table
  coherent : Coherent table

theorem map_bind_cons_eq_ok_iff {first : Except Failure Table} {others : Except Failure (List Table)}
    {f : Table → Table} {table : Table} {tables : List Table} :
    (do
      let first ← first
      let others ← others
      return first :: others).map (List.map f) = .ok (table :: tables) ↔
      first.map f = .ok table ∧ others.map (List.map f) = .ok tables := by
  cases first with
  | error failure => exact ⟨fun h => (by cases h), fun h => (by cases h.1)⟩
  | ok read =>
      cases others with
      | error failure => exact ⟨fun h => (by cases h), fun h => (by cases h.2)⟩
      | ok rest =>
          simp [map_eq_ok_iff, bind, Except.bind, pure, Except.pure]

/-- In front of other tables, a table with clauses that stand for themselves comes back exactly if
its columns are restored. -/
theorem scriptTables_cons_iff {dialect : Dialect} {table : Table} (tables : List Table)
    (hregular : Regular table) (hne : table.columns ≠ [])
    (hsealed : ∀ column ∈ table.columns, Sealed column) :
    (scriptTables dialect (renderTables dialect (table :: tables))).map
        (List.map Table.withoutReferences) = .ok ((table :: tables).map Table.withoutReferences) ↔
      (∀ column ∈ table.columns, Restored dialect table.keyColumns column) ∧
        (scriptTables dialect (renderTables dialect tables)).map (List.map Table.withoutReferences)
          = .ok (tables.map Table.withoutReferences) := by
  have hparsed := hregular.parsed.parsed_columns
  have hclauses : clauseTexts dialect table ≠ [] := by
    simp [clauseTexts, hne]
  have hstanding := standing_clauseTexts dialect fun column hcolumn =>
    (hsealed column hcolumn).standing (hparsed column hcolumn)
  have hread := readDefinition_clauseTexts dialect fun column hcolumn =>
    readDefinition_parsed (hparsed column hcolumn)
  rw [tablesIn_renderTables_cons dialect tables hregular.parsed.name_ne hclauses hstanding, hread,
    List.map_cons, map_bind_cons_eq_ok_iff, hregular.coherent.keyColumns_eq,
    assemble_foundColumn_iff hregular.parsed hregular.coherent]

theorem scriptTables_of_settled {dialect : Dialect} {tables : List Table}
    (hregular : ∀ table ∈ tables, Regular table) (hsettled : ∀ table ∈ tables,
      table.columns ≠ [] ∧ ∀ column ∈ table.columns, Settled dialect table.keyColumns column) :
    (scriptTables dialect (renderTables dialect tables)).map (List.map Table.withoutReferences)
      = .ok (tables.map Table.withoutReferences) := by
  induction tables with
  | nil => rfl
  | cons table tables ih =>
      obtain ⟨hne, hcolumns⟩ := hsettled table List.mem_cons_self
      refine (scriptTables_cons_iff tables (hregular table List.mem_cons_self) hne
        fun column hcolumn => (hcolumns column hcolumn).is_sealed).mpr
          ⟨fun column hcolumn => (hcolumns column hcolumn).restored, ih ?_ ?_⟩
      · exact fun other hother => hregular other (List.mem_cons_of_mem table hother)
      · exact fun other hother => hsettled other (List.mem_cons_of_mem table hother)

end RelSchema.Ddl
