import RelSchema.Proofs.Ddl.Found

/-!
# Scripts that come back

The tables of a script come back from the script that they are written to exactly if each of them
has a column and each of their columns is settled. A column that is not settled is not found as it
is, and no clause behind it makes up for the difference. A table without columns is passed over, and
no table behind it takes its place.
-/

namespace RelSchema.Ddl

open Sql (Balanced SelfContained stripComments)

/-- The clause of a column gives another column, or the column itself, or nothing if its type is
blank. -/
theorem found_cases {dialect : Dialect} {keys : List String} {column : Column}
    (hparsed : ParsedColumn column)
    (hmark : column.isNullable = true → nullability keys column = .nullable)
    {clauses : List (List Char)} {body : List Char}
    (h : ReadFrom (columnText dialect keys column :: clauses) body) :
    (∃ found others, columnsOf dialect body = found :: others ∧ ¬ Fading found ∧
        ¬ Matches found column) ∨
      (∃ found more, ReadFrom clauses more ∧
        columnsOf dialect body = found :: columnsOf dialect more ∧ ¬ Fading found ∧ Sealed column) ∨
      ∃ more, ReadFrom clauses more ∧ columnsOf dialect body = columnsOf dialect more ∧
        Fading column := by
  by_cases hsealed : Sealed column
  · obtain ⟨more, hmore, hfound⟩ := exists_found_of_sealed hparsed hsealed h
    exact Or.inr (Or.inl ⟨_, more, hmore, hfound, not_fading_foundColumn hsealed, hsealed⟩)
  cases hraw : rawDefault? column with
  | some value =>
      obtain ⟨found, others, hfound, hne, hcontained⟩ := exists_found_of_raw hparsed hraw h
      refine Or.inl ⟨found, others, hfound, fun hfading => hne hfading.without_default, ?_⟩
      intro hmatches
      obtain ⟨hvalue, hends⟩ := hcontained hmatches.default_eq
      refine hsealed ⟨fun _ hnone => ?_, fun other hother => ?_, fun other hother => ?_⟩
      · rw [rawDefault?, hnone] at hraw
        cases hraw
      · cases hraw.symm.trans hother
        exact hvalue
      · cases hraw.symm.trans hother
        exact hends
  | none =>
      have hfading : Fading column := by
        by_contra hfading
        refine hsealed ⟨fun hnullable hdefault => ?_, by simp [hraw], by simp [hraw]⟩
        by_contra hblank
        exact hfading ⟨hnullable, hdefault, hblank⟩
      rcases exists_found_of_fading hparsed hfading (hmark hfading.nullable) h with hother |
        ⟨more, hmore, hfound⟩
      · exact Or.inl hother
      · exact Or.inr (Or.inr ⟨more, hmore, hfound, hfading⟩)

theorem columnsOf_keys {dialect : Dialect} {texts : List (List Char)}
    (htexts : ∀ text ∈ texts, ∃ names, text = keyText dialect names) {body : List Char}
    (h : ReadFrom texts body) : columnsOf dialect body = [] := by
  induction texts generalizing body with
  | nil =>
      rw [columnsOf, h.definitions_nil]
      rfl
  | cons text texts ih =>
      obtain ⟨names, rfl⟩ := htexts text List.mem_cons_self
      obtain ⟨more, hmore, hbody⟩ := h.exists_of_cons (List.append_nil _).symm
        (standing_keyText dialect names) (by simp)
      rw [columnsOf, hbody, List.map_cons, readDefinition_keyText]
      exact ih (fun other hother => htexts other (List.mem_cons_of_mem _ hother)) hmore

/-- What is found in a body of clauses does not start with a column whose type ends in a blank; if
it matches the columns, their clauses stand for themselves; and nothing is found only if all types
end in a blank. -/
theorem columnsOf_columnTexts {dialect : Dialect} {keys : List String} {texts : List (List Char)}
    (htexts : ∀ text ∈ texts, ∃ names, text = keyText dialect names) {columns : List Column}
    (hparsed : ∀ column ∈ columns, ParsedColumn column)
    (hmark : ∀ column ∈ columns, column.isNullable = true → nullability keys column = .nullable)
    {body : List Char} (h : ReadFrom (columns.map (columnText dialect keys) ++ texts) body) :
    (∀ found ∈ (columnsOf dialect body).head?, ¬ Fading found) ∧
      (List.Forall₂ Matches (columnsOf dialect body) columns → ∀ column ∈ columns, Sealed column) ∧
      (columnsOf dialect body = [] → ∀ column ∈ columns, Fading column) := by
  induction columns generalizing body with
  | nil =>
      rw [columnsOf_keys htexts h]
      exact ⟨by simp, by simp, by simp⟩
  | cons column columns ih =>
      have ih' := fun {more} (hmore : ReadFrom _ more) =>
        ih (fun other hother => hparsed other (List.mem_cons_of_mem column hother))
          (fun other hother => hmark other (List.mem_cons_of_mem column hother)) hmore
      rw [List.map_cons, List.cons_append] at h
      rcases found_cases (hparsed column List.mem_cons_self) (hmark column List.mem_cons_self) h with
        ⟨found, others, hfound, hfading, hdiffers⟩ | ⟨found, more, hmore, hfound, hfading, hsealed⟩ |
        ⟨more, hmore, hfound, hfading⟩
      · rw [hfound]
        refine ⟨by simpa using hfading, fun hall => ?_, fun hnil => by cases hnil⟩
        exact absurd (List.forall₂_cons.mp hall).1 hdiffers
      · rw [hfound]
        refine ⟨by simpa using hfading, fun hall => ?_, fun hnil => by cases hnil⟩
        have hrest := (ih' hmore).2.1 (List.forall₂_cons.mp hall).2
        intro other hother
        rcases List.mem_cons.mp hother with rfl | hother
        · exact hsealed
        · exact hrest other hother
      · obtain ⟨hhead, -, hnone⟩ := ih' hmore
        rw [hfound]
        refine ⟨hhead, fun hall => ?_, fun hnil => ?_⟩
        · -- a column with this type is never found first
          exfalso
          cases hcolumns : columnsOf dialect more with
          | nil =>
              rw [hcolumns] at hall
              cases hall
          | cons found others =>
              rw [hcolumns] at hall hhead
              exact hhead found rfl (hfading.of_matches (List.forall₂_cons.mp hall).1)
        · intro other hother
          rcases List.mem_cons.mp hother with rfl | hother
          · exact hfading
          · exact hnone hnil other hother

/-- The columns of an assembled table are those of its definitions up to marks and references. -/
theorem forall₂_matches_of_assemble {name : String} {definitions : List Definition} {read : Table}
    (h : assemble name definitions = .ok read) {columns : List Column}
    (hsame : read.columns.map Column.withoutReference = columns.map Column.withoutReference) :
    List.Forall₂ Matches (definitions.filterMap Definition.column?) columns := by
  rw [assemble, Table.checked_eq_ok_iff] at h
  obtain ⟨rfl, -, -⟩ := h
  set found := definitions.filterMap Definition.column?
  set names := definitions.flatMap Definition.keyNames
  have hcolumns : (declareKey names found).map Column.withoutReference
      = columns.map Column.withoutReference := by
    rw [← hsame]
    exact (withoutReference_foldl _ _).symm
  have hmatches : List.Forall₂ (fun marked column : Column =>
      marked.withoutReference = column.withoutReference) (declareKey names found) columns := by
    have hall : List.Forall₂ (· = ·) ((declareKey names found).map Column.withoutReference)
        (columns.map Column.withoutReference) := by
      rw [hcolumns]
      exact List.forall₂_refl _
    exact List.forall₂_map_right_iff.mp (List.forall₂_map_left_iff.mp hall)
  rw [declareKey] at hmatches
  split at hmatches
  · refine hmatches.imp fun marked column heq => ?_
    obtain ⟨-, htype, -, -, hnull, hdefault⟩ := Column.withoutReference_eq_iff.mp heq
    exact ⟨htype, hdefault, fun h => hnull.trans h⟩
  · rw [List.forall₂_map_left_iff] at hmatches
    refine hmatches.imp fun original column heq => ?_
    obtain ⟨-, htype, -, -, hnull, hdefault⟩ := Column.withoutReference_eq_iff.mp heq
    split at htype
    · next hany =>
      rw [if_pos hany] at hnull hdefault
      exact ⟨htype, hdefault, fun h => by rw [h] at hnull; cases hnull⟩
    · next hany =>
      rw [if_neg hany] at hnull hdefault
      exact ⟨htype, hdefault, fun h => hnull.trans h⟩

/-- The first table of a rendered script is read from the clauses of the first table on. -/
theorem exists_body_of_scriptTables {dialect : Dialect} {table first : Table}
    {tables others : List Table} (hname : table.name ≠ "")
    (h : scriptTables dialect (renderTables dialect (table :: tables)) = .ok (first :: others)) :
    ∃ body, ReadFrom (clauseTexts dialect table) body ∧ (Text.trim body ≠ [] →
      assemble table.name ((Sql.definitions body).map (readDefinition dialect)) = .ok first) := by
  obtain ⟨rest, hrest⟩ := exists_toList_renderTables dialect table tables
  have hgap : stripComments (['\n', ' ', ' ']
        ++ (clausesText (clauseTexts dialect table) ++ ')' :: (';' :: rest)))
      = ['\n', ' ', ' ']
        ++ stripComments (clausesText (clauseTexts dialect table) ++ ')' :: (';' :: rest)) :=
    Sql.stripComments_append (by decide) (by decide) (by decide) _
  have hstrip : stripComments (renderTables dialect (table :: tables)).toList
      = headText dialect table.name.toList ++ (['\n', ' ', ' ']
        ++ stripComments (clausesText (clauseTexts dialect table) ++ ')' :: (';' :: rest))) := by
    have hhead := selfContained_headText dialect table.name.toList
    have hopen : SelfContained ';' (headWords
        ++ Naming.enclosed dialect.quoteChar table.name.toList ++ [' ']) := hhead
    have hunmarked : Sql.Unmarked (headText dialect table.name.toList) := by
      have hsplit : headText dialect table.name.toList = (headWords
          ++ Naming.enclosed dialect.quoteChar table.name.toList ++ [' ']) ++ ['('] := by
        simp [headText]
      rw [hsplit]
      refine hopen.unmarked.append (b := ['(']) (by decide) hopen.balanced.openQuote_eq ?_
      intro c _ d hd
      cases hd
      exact Sql.isMark_of_right (by decide) (by decide)
    have hclosed : Text.openQuote Sql.quotes none (headText dialect table.name.toList) = none := by
      have hsplit : headText dialect table.name.toList = (headWords
          ++ Naming.enclosed dialect.quoteChar table.name.toList ++ [' ']) ++ ['('] := by
        simp [headText]
      rw [hsplit, Text.openQuote_append, hopen.balanced.openQuote_eq]
      decide
    rw [hrest, toList_renderTable, ← hgap]
    have happend := Sql.stripComments_append hunmarked hclosed (fun c hc => by
      rw [headText, List.getLast?_append] at hc
      cases hc
      decide) (bodyText (clauseTexts dialect table) ++ ')' :: (';' :: rest))
    rw [bodyText, List.append_assoc] at happend
    rw [← happend, bodyText]
    simp only [List.append_assoc, List.cons_append, List.nil_append]
  rw [scriptTables_eq, hstrip] at h
  obtain ⟨body, behind, hbody, hbalanced, hassemble⟩ :=
    exists_body_of_tablesIn (by simpa using hname) h
  rw [String.ofList_toList] at hassemble
  exact ⟨body, ⟨['\n', ' ', ' '], ';' :: rest, behind, by decide, hbalanced, hbody⟩, hassemble⟩

/-- A body that starts with the clause of a column is not blank. -/
theorem trim_ne_nil_of_readFrom {dialect : Dialect} {keys : List String} {column : Column}
    {clauses : List (List Char)} {body : List Char}
    (h : ReadFrom (columnText dialect keys column :: clauses) body) : Text.trim body ≠ [] := by
  obtain ⟨gap, rest, behind, hgap, hbody, hall⟩ := h
  obtain ⟨c, more, -, hclauses⟩ :=
    clausesText_cons (columnText dialect keys column) clauses (')' :: rest)
  have hname : SelfContained ',' (Naming.enclosed dialect.quoteChar column.name.toList) :=
    .enclosed (isQuote_quoteChar dialect) column.name.toList
  have hstrip : ∀ text, stripComments (Naming.enclosed dialect.quoteChar column.name.toList ++ text)
      = Naming.enclosed dialect.quoteChar column.name.toList ++ stripComments text := by
    intro text
    refine Sql.stripComments_append hname.unmarked hname.balanced.openQuote_eq (fun d hd => ?_) text
    rw [Naming.enclosed, List.getLast?_append] at hd
    cases hd
    cases dialect <;> decide
  rw [hclauses, columnText, clauseText, List.append_assoc, hstrip, ← List.append_assoc] at hall
  obtain ⟨shown, rfl, -, -⟩ := exists_eq_append_of_closing
    ((balanced_of_blank hgap).append hname.balanced) hbody hall
  refine Text.trim_ne_nil (c := dialect.quoteChar) ?_ ?_
  · simp [Naming.enclosed]
  · cases dialect <;> decide

section Regular

variable {dialect : Dialect} {table : Table} (hregular : Regular table)

include hregular

theorem nullability_of_regular : ∀ column ∈ table.columns, column.isNullable = true →
    nullability table.keyColumns column = .nullable := by
  intro column hcolumn hnullable
  have hkey : column.name ∉ table.primaryKeys := by
    intro hmem
    have hmark := hregular.coherent.marked column hcolumn
    rw [decide_eq_true hmem] at hmark
    rw [(hregular.parsed.parsed_columns column hcolumn).marked hmark] at hnullable
    cases hnullable
  have hany : table.primaryKeys.any (Text.sameFold column.name) = false := by
    refine Bool.eq_false_iff.mpr fun hany => hkey ?_
    exact (hregular.coherent.distinct.any_sameFold_iff hregular.coherent.subset
      (List.mem_map_of_mem hcolumn)).mp hany
  rw [nullability, hregular.coherent.keyColumns_eq, hany, hnullable]
  rfl

/-- A table without columns adds nothing to a rendered script. -/
theorem scriptTables_of_columns_nil (hnil : table.columns = []) (tables : List Table) :
    scriptTables dialect (renderTables dialect (table :: tables))
      = scriptTables dialect (renderTables dialect tables) := by
  have hkeys : table.keyColumns = [] := by
    rw [hregular.coherent.keyColumns_eq, ← List.subset_nil]
    have hsubset := hregular.coherent.subset
    rwa [Table.columnNames, hnil] at hsubset
  have hclauses : clauseTexts dialect table = [] := by
    rw [clauseTexts, hkeys, hnil]
    rfl
  refine scriptTables_renderTables_cons id (fun rest => ?_) tables
  have hname : table.name.toList ≠ [] := by simpa using hregular.parsed.name_ne
  have hbody : Balanced (bodyText []) ∧ Sql.Unmarked (bodyText [])
      ∧ Text.trim (bodyText []) = [] := by decide
  have hblank := tablesIn_blank_statement dialect hname hbody.1 hbody.2.1 hbody.2.2 rest
  rw [toList_renderTable, hclauses, List.append_assoc _ [';'] rest]
  exact hblank

/-- What the first table of a rendered script is read from, if the table that was written has
columns. -/
theorem exists_columnsOf_of_scriptTables (hne : table.columns ≠ []) {tables others : List Table}
    {first : Table}
    (h : scriptTables dialect (renderTables dialect (table :: tables)) = .ok (first :: others)) :
    ∃ body, assemble table.name ((Sql.definitions body).map (readDefinition dialect)) = .ok first ∧
      (∀ found ∈ (columnsOf dialect body).head?, ¬ Fading found) ∧
      (List.Forall₂ Matches (columnsOf dialect body) table.columns →
        ∀ column ∈ table.columns, Sealed column) ∧
      (columnsOf dialect body = [] → ∀ column ∈ table.columns, Fading column) := by
  obtain ⟨body, hbody, hassemble⟩ := exists_body_of_scriptTables hregular.parsed.name_ne h
  have hkeys : ∀ text ∈ (keyClause dialect table.keyColumns).map String.toList,
      ∃ names, text = keyText dialect names :=
    fun text htext => ⟨table.keyColumns, eq_keyText_of_mem htext⟩
  refine ⟨body, hassemble ?_, columnsOf_columnTexts hkeys hregular.parsed.parsed_columns
    (nullability_of_regular hregular) hbody⟩
  obtain ⟨column, columns, hcolumns⟩ := List.exists_cons_of_ne_nil hne
  rw [clauseTexts, hcolumns, List.map_cons, List.cons_append] at hbody
  exact trim_ne_nil_of_readFrom hbody

/-- A table whose types all end in a blank adds one table to a rendered script. -/
theorem exists_of_all_fading (hne : table.columns ≠ [])
    (hfading : ∀ column ∈ table.columns, Fading column) (tables : List Table) :
    ∃ first, scriptTables dialect (renderTables dialect (table :: tables)) = (do
      let first ← first
      let others ← scriptTables dialect (renderTables dialect tables)
      return first :: others) := by
  have hclauses : ∀ clause ∈ clauseTexts dialect table, SelfContained ',' clause := by
    refine forall_mem_clauseTexts (fun column hmem => ?_) (standing_keyText dialect _).contained
    have hparsed := hregular.parsed.parsed_columns column hmem
    refine selfContained_clauseText dialect _ _ ?_ ?_
    · rw [typeText_parsed hparsed]
      exact selfContained_type hparsed
    · rw [defaultText?, (hfading column hmem).without_default]
      simp
  have hblank : Text.trim (bodyText (clauseTexts dialect table)) ≠ [] := by
    obtain ⟨column, columns, hcolumns⟩ := List.exists_cons_of_ne_nil hne
    obtain ⟨c, more, -, hsplit⟩ := clausesText_cons (columnText dialect table.keyColumns column)
      (columns.map (columnText dialect table.keyColumns)
        ++ (keyClause dialect table.keyColumns).map String.toList) []
    rw [List.append_nil] at hsplit
    refine Text.trim_ne_nil (c := dialect.quoteChar) ?_ (by cases dialect <;> decide)
    have hclause : dialect.quoteChar ∈ columnText dialect table.keyColumns column := by
      simp [columnText, clauseText, Naming.enclosed]
    have htexts : clauseTexts dialect table = columnText dialect table.keyColumns column ::
        (columns.map (columnText dialect table.keyColumns)
          ++ (keyClause dialect table.keyColumns).map String.toList) := by
      rw [clauseTexts, hcolumns]
      rfl
    rw [bodyText, htexts, hsplit]
    exact List.mem_append_right _ (List.mem_append_left _ hclause)
  refine ⟨_, scriptTables_renderTables_cons (fun others => do
    let first ← assemble table.name
      ((Sql.definitions (bodyText (clauseTexts dialect table))).map (readDefinition dialect))
    let others ← others
    return first :: others) (fun rest => ?_) tables⟩
  exact tablesIn_renderTable dialect hregular.parsed.name_ne hclauses hblank rest

end Regular

/-- If the first column that is found does not end in a blank and the columns that it stands for do,
none is found. -/
theorem eq_nil_of_matches_fading {found columns : List Column}
    (hmatches : List.Forall₂ Matches found columns) (hfading : ∀ column ∈ columns, Fading column)
    (hhead : ∀ column ∈ found.head?, ¬ Fading column) : found = [] := by
  cases hmatches with
  | nil => rfl
  | cons hfirst _ =>
      exact absurd (Fading.of_matches hfirst (hfading _ List.mem_cons_self)) (hhead _ rfl)

/-- Rendered tables do not come back behind further ones whose types all end in a blank. -/
theorem not_behind_fading {dialect : Dialect} {tables : List Table}
    (hregular : ∀ table ∈ tables, Regular table) {ahead : List Table} (hne : ahead ≠ [])
    (hfading : ∀ table ∈ ahead, ∀ column ∈ table.columns, Fading column) :
    (scriptTables dialect (renderTables dialect tables)).map (List.map Table.withoutReferences)
      ≠ .ok ((ahead ++ tables).map Table.withoutReferences) := by
  induction tables generalizing ahead with
  | nil =>
      intro h
      rw [scriptTables_renderTables_nil, List.append_nil] at h
      exact hne (List.map_eq_nil_iff.mp (Except.ok.inj h).symm)
  | cons table tables ih =>
      obtain ⟨htable, htables⟩ := List.forall_mem_cons.mp hregular
      intro h
      -- in both cases the table itself joins those ahead
      by_cases hnil : table.columns = []
      · rw [scriptTables_of_columns_nil htable hnil, List.append_cons] at h
        refine ih htables (by simp) (List.forall_mem_append.mpr ⟨hfading, ?_⟩) h
        simp [hnil]
      · obtain ⟨first, ahead, rfl⟩ := List.exists_cons_of_ne_nil hne
        obtain ⟨hfirst, hahead⟩ := List.forall_mem_cons.mp hfading
        obtain ⟨head, others, hread, hsame, -⟩ := exists_cons_of_map_eq_ok h
        obtain ⟨body, hassemble, hhead, -, hnone⟩ :=
          exists_columnsOf_of_scriptTables htable hnil hread
        have hmatches := forall₂_matches_of_assemble hassemble (congrArg Table.columns hsame)
        have hall := hnone (eq_nil_of_matches_fading hmatches hfirst hhead)
        obtain ⟨added, hadded⟩ := exists_of_all_fading htable hnil hall tables
        rw [hadded, List.cons_append, List.map_cons, map_bind_cons_eq_ok_iff, List.append_cons] at h
        exact ih htables (by simp)
          (List.forall_mem_append.mpr ⟨hahead, List.forall_mem_singleton.mpr hall⟩) h.2

/-- If the tables of a script come back, each has a column and all columns are settled. -/
theorem settled_of_scriptTables {dialect : Dialect} {tables : List Table}
    (hregular : ∀ table ∈ tables, Regular table)
    (h : (scriptTables dialect (renderTables dialect tables)).map (List.map Table.withoutReferences)
      = .ok (tables.map Table.withoutReferences)) :
    ∀ table ∈ tables, table.columns ≠ [] ∧
      ∀ column ∈ table.columns, Settled dialect table.keyColumns column := by
  induction tables with
  | nil => simp
  | cons table tables ih =>
      obtain ⟨htable, htables⟩ := List.forall_mem_cons.mp hregular
      have hne : table.columns ≠ [] := by
        intro hnil
        rw [scriptTables_of_columns_nil htable hnil] at h
        have hfading : ∀ other ∈ [table], ∀ column ∈ other.columns, Fading column := by
          simp [hnil]
        exact not_behind_fading htables (List.cons_ne_nil table []) hfading h
      obtain ⟨head, others, hread, hsame, -⟩ := exists_cons_of_map_eq_ok h
      obtain ⟨body, hassemble, -, hsealed, -⟩ := exists_columnsOf_of_scriptTables htable hne hread
      have hall := hsealed
        (forall₂_matches_of_assemble hassemble (congrArg Table.columns hsame))
      obtain ⟨hrestored, hrest⟩ := (scriptTables_cons_iff tables htable hne hall).mp h
      exact List.forall_mem_cons.mpr
        ⟨⟨hne, fun column hcolumn => ⟨hall column hcolumn, hrestored column hcolumn⟩⟩,
          ih htables hrest⟩

/-- The tables of a script whose columns have distinct names, and whose keys name their columns,
come back up to references exactly if each has a column and all columns are settled. -/
theorem parse_renderTables_iff {dialect : Dialect} {script : String} {tables : List Table}
    (hparse : parse script (some dialect.name) = .ok tables)
    (hdistinct : ∀ table ∈ tables, DistinctFolds table.columnNames)
    (hkeys : ∀ table ∈ tables, ∀ key ∈ table.primaryKeys, table.hasColumn key = true) :
    (parse (renderTables dialect tables) (some dialect.name)).map (List.map Table.withoutReferences)
        = .ok (tables.map Table.withoutReferences) ↔
      ∀ table ∈ tables, table.columns ≠ [] ∧
        ∀ column ∈ table.columns, Settled dialect table.keyColumns column := by
  rw [parse_dialectName] at hparse ⊢
  have hregular : ∀ table ∈ tables, Regular table := by
    intro table htable
    have hparsed := parsedTable_of_scriptTables hparse table htable
    exact ⟨hparsed, hparsed.coherent (hdistinct table htable) (hkeys table htable)⟩
  exact ⟨settled_of_scriptTables hregular, scriptTables_of_settled hregular⟩

/-- A table with an expression and a text as defaults and a key out of order. -/
def checkedTable : Table where
  name := "t"
  columns := [
    { name := "a", type := "INT", isPrimaryKey := true, isNullable := false
      defaultValue := some "(1 + 2)" },
    { name := "b", type := "TEXT", isPrimaryKey := true, isNullable := false
      defaultValue := some "it's" }]
  primaryKeys := ["b", "a"]

theorem parse_renderTables_iff_checkedTable :
    parse "CREATE TABLE t (a INT DEFAULT (1 + 2), b TEXT DEFAULT 'it''s', PRIMARY KEY (b, a))"
        (some "postgres") = .ok [checkedTable] ∧
      ((parse (renderTables .postgres [checkedTable]) (some "postgres")).map
          (List.map Table.withoutReferences) = .ok ([checkedTable].map Table.withoutReferences) ↔
        ∀ table ∈ [checkedTable], table.columns ≠ [] ∧
          ∀ column ∈ table.columns, Settled .postgres table.keyColumns column) := by
  have hparse : parse
      "CREATE TABLE t (a INT DEFAULT (1 + 2), b TEXT DEFAULT 'it''s', PRIMARY KEY (b, a))"
      (some "postgres") = .ok [checkedTable] := by decide +kernel
  refine ⟨hparse, parse_renderTables_iff hparse ?_ (by decide)⟩
  unfold DistinctFolds
  decide

/-- A script whose first default starts with a quote. -/
def quotedScript : String :=
  "CREATE TABLE t (a TEXT DEFAULT '''x', b INTEGER); CREATE TABLE u (c INT)"

def quotedTables : List Table := [
  { name := "t"
    columns := [
      { name := "a", type := "TEXT", defaultValue := some "'x" },
      { name := "b", type := "INTEGER" }] },
  { name := "u", columns := [{ name := "c", type := "INT" }] }]

/-- A default that starts with a quote is written without quotes around it, and the quote that it
opens hides all that follows: no table of the script comes back. -/
theorem parse_renderTables_quotedTables :
    parse quotedScript (some "sqlite") = .ok quotedTables ∧
      (∀ table ∈ quotedTables, DistinctFolds table.columnNames) ∧
      (∀ table ∈ quotedTables, ∀ key ∈ table.primaryKeys, table.hasColumn key = true) ∧
      parse (renderTables .sqlite quotedTables) (some "sqlite") = .ok [] ∧
      ¬ (parse (renderTables .sqlite quotedTables) (some "sqlite")).map
          (List.map Table.withoutReferences)
        = .ok (quotedTables.map Table.withoutReferences) := by
  have hlost : parse (renderTables .sqlite quotedTables) (some "sqlite") = .ok [] := by
    decide +kernel
  refine ⟨by decide +kernel, ?_, by decide, hlost, ?_⟩
  · unfold DistinctFolds
    decide
  · rw [hlost]
    exact fun h => List.cons_ne_nil _ _ (Except.ok.inj h).symm

end RelSchema.Ddl
