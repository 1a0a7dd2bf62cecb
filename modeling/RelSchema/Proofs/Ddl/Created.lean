import RelSchema.Proofs.Ddl.RoundTrip

/-!
# What statements create

A statement that creates a table gives it a name and definitions. The table is refused exactly if
one of its columns refers to a table without a name, where the last foreign key on the column counts
and the reference of its own definition otherwise.
-/

namespace RelSchema.Ddl

open Sql (Token)

/-- The name and the definitions that a statement gives to a table. -/
structure Creation where
  name : String
  definitions : List Definition

namespace Creation

def columns (creation : Creation) : List Column :=
  creation.definitions.filterMap Definition.column?

def foreignKeys (creation : Creation) : List ForeignKey :=
  creation.definitions.flatMap Definition.foreign

end Creation

/-- The table that a column refers to under foreign keys: that of the last key on its name, or else
its own. -/
def targetTable? (keys : List ForeignKey) (column : Column) : Option String :=
  ((keys.reverse.find? fun key => Text.sameFold column.name key.column).map (·.table)).or
    column.foreignTable

/-- The creation that the tokens behind `CREATE TABLE` spell, the first of them the name. -/
def readCreation? (dialect : Dialect) (statement : List Char) : List Token → Option Creation
  | [] => none
  | head :: _ =>
    let name := objectName head
    let body := Sql.Brackets.inside {} (statement.drop head.stop)
    if head.isName && name != "" && !(Text.trim body).isEmpty then
      some ⟨name, (Sql.definitions body).map (readDefinition dialect)⟩
    else none

def creation? (dialect : Dialect) (statement : List Char) : Option Creation :=
  let tokens := tokens dialect statement
  if startsWith ["CREATE", "TABLE"] tokens then
    let tokens := tokens.drop 2
    readCreation? dialect statement
      (if startsWith ["IF", "NOT", "EXISTS"] tokens then tokens.drop 3 else tokens)
  else none

/-- What the statements of a script create, in order. -/
def creations (dialect : Dialect) (script : String) : List Creation :=
  (Sql.statements (Sql.stripComments script.toList)).filterMap (creation? dialect)

theorem readTable?_eq (dialect : Dialect) (statement : List Char) (tokens : List Token) :
    readTable? dialect statement tokens
      = (readCreation? dialect statement tokens).map fun creation =>
          assemble creation.name creation.definitions := by
  cases tokens with
  | nil => rfl
  | cons head rest =>
      unfold readTable? readCreation?
      dsimp only
      split_ifs <;> rfl

theorem statementTable?_eq (dialect : Dialect) (statement : List Char) :
    statementTable? dialect statement
      = (creation? dialect statement).map fun creation =>
          assemble creation.name creation.definitions := by
  unfold statementTable? creation?
  dsimp only
  rw [readTable?_eq]
  split_ifs <;> rfl

theorem scriptTables_eq_mapM (dialect : Dialect) (script : String) :
    scriptTables dialect script = (creations dialect script).mapM fun creation =>
      assemble creation.name creation.definitions := by
  have hstatement : statementTable? dialect = fun statement =>
      (creation? dialect statement).map fun creation =>
        assemble creation.name creation.definitions :=
    funext (statementTable?_eq dialect)
  unfold scriptTables creations
  rw [hstatement, ← List.map_filterMap, List.mapM_map]
  rfl

def underForeignKey (column : Column) (key : ForeignKey) : Column :=
  if Text.sameFold column.name key.column then column.asForeignKey key.table key.key else column

/-- A column that names a table exactly if it is marked as foreign. -/
def IsLinked (column : Column) : Prop :=
  column.isForeignKey = column.foreignTable.isSome

theorem foldl_applyForeignKey (keys : List ForeignKey) (columns : List Column) :
    keys.foldl applyForeignKey columns
      = columns.map fun column => keys.foldl underForeignKey column := by
  induction keys generalizing columns with
  | nil => exact (List.map_id columns).symm
  | cons key keys ih =>
      rw [List.foldl_cons, ih, applyForeignKey, List.map_map]
      rfl

theorem name_foldl_underForeignKey (keys : List ForeignKey) (column : Column) :
    (keys.foldl underForeignKey column).name = column.name := by
  induction keys generalizing column with
  | nil => rfl
  | cons key keys ih =>
      rw [List.foldl_cons, ih, underForeignKey]
      split_ifs <;> rfl

theorem IsLinked.foldl_underForeignKey {column : Column} (h : IsLinked column)
    (keys : List ForeignKey) : IsLinked (keys.foldl underForeignKey column) := by
  induction keys generalizing column with
  | nil => exact h
  | cons key keys ih =>
      apply ih
      unfold underForeignKey
      split_ifs
      · rfl
      · exact h

/-- The last foreign key on a column tells where it refers to. -/
theorem foreignTable_foldl_underForeignKey (keys : List ForeignKey) (column : Column) :
    (keys.foldl underForeignKey column).foreignTable = targetTable? keys column := by
  -- the last key decides, so keys are taken off the end
  induction keys using List.reverseRecOn with
  | nil => rfl
  | append_singleton keys key ih =>
      rw [List.foldl_append, List.foldl_cons, List.foldl_nil, underForeignKey,
        name_foldl_underForeignKey, targetTable?, List.reverse_append]
      by_cases hsame : Text.sameFold column.name key.column = true
      · rw [if_pos hsame]
        simp [hsame, Column.asForeignKey]
      · rw [if_neg hsame, ih, targetTable?]
        simp [hsame]

theorem consistent_iff_of_isLinked {column : Column} (h : IsLinked column) :
    column.Consistent ↔ column.foreignTable ≠ some "" := by
  unfold Column.Consistent
  rw [h]
  cases column.foreignTable with
  | none => simp [isGiven]
  | some table => simp [isGiven]

theorem isLinked_readColumn (definition : List Char) (name type : Token) (rest : List Token) :
    IsLinked (readColumn definition name type rest) := by
  unfold readColumn
  dsimp only
  split
  · rfl
  · rfl

theorem isLinked_of_readDefinition {dialect : Dialect} {text : List Char} {column : Column}
    (h : readDefinition dialect text = .column column) : IsLinked column := by
  obtain ⟨name, type, rest, -, -, rfl⟩ := readDefinition_eq_column_iff.mp h
  exact isLinked_readColumn text name type rest

theorem isLinked_of_mem_creations {dialect : Dialect} {script : String} {creation : Creation}
    (h : creation ∈ creations dialect script) : ∀ column ∈ creation.columns, IsLinked column := by
  obtain ⟨statement, -, hcreation⟩ := List.mem_filterMap.mp h
  -- it does not matter whether the name stands behind `IF NOT EXISTS`
  suffices hread : ∀ tokens, readCreation? dialect statement tokens = some creation →
      ∀ column ∈ creation.columns, IsLinked column by
    unfold creation? at hcreation
    dsimp only at hcreation
    split_ifs at hcreation
    · exact hread _ hcreation
    · exact hread _ hcreation
  intro tokens htokens column hcolumn
  cases tokens with
  | nil => cases htokens
  | cons head rest =>
      unfold readCreation? at htokens
      dsimp only at htokens
      split_ifs at htokens
      cases htokens
      obtain ⟨definition, hdefinition, hfound⟩ := List.mem_filterMap.mp hcolumn
      obtain ⟨text, -, rfl⟩ := List.mem_map.mp hdefinition
      cases hread : readDefinition dialect text with
      | column read =>
          rw [hread] at hfound
          cases hfound
          exact isLinked_of_readDefinition hread
      | _ =>
          rw [hread] at hfound
          cases hfound

theorem exists_declareKey_eq_map (names : List String) (columns : List Column) :
    ∃ f : Column → Column, declareKey names columns = columns.map f ∧
      ∀ column, (f column).name = column.name ∧ (f column).isForeignKey = column.isForeignKey ∧
        (f column).foreignTable = column.foreignTable := by
  unfold declareKey
  by_cases hnames : names.isEmpty = true
  · rw [if_pos hnames]
    exact ⟨id, (List.map_id columns).symm, fun _ => ⟨rfl, rfl, rfl⟩⟩
  · rw [if_neg hnames]
    refine ⟨_, rfl, fun column => ?_⟩
    split_ifs
    · exact ⟨rfl, rfl, rfl⟩
    · exact ⟨rfl, rfl, rfl⟩

theorem exists_assemble_eq_ok_iff {creation : Creation}
    (hlinked : ∀ column ∈ creation.columns, IsLinked column) :
    (∃ table, assemble creation.name creation.definitions = .ok table) ↔
      ∀ column ∈ creation.columns, targetTable? creation.foreignKeys column ≠ some "" := by
  obtain ⟨f, hdeclared, hf⟩ := exists_declareKey_eq_map
    (creation.definitions.flatMap Definition.keyNames) creation.columns
  have hcolumn : ∀ column ∈ creation.columns,
      ((creation.foreignKeys.foldl underForeignKey (f column)).Consistent ↔
        targetTable? creation.foreignKeys column ≠ some "") := by
    intro column hmem
    obtain ⟨hname, hmark, htable⟩ := hf column
    have hkept : IsLinked (f column) := by
      unfold IsLinked
      rw [hmark, htable]
      exact hlinked column hmem
    rw [consistent_iff_of_isLinked (hkept.foldl_underForeignKey _),
      foreignTable_foldl_underForeignKey, targetTable?, targetTable?, hname, htable]
  simp only [assemble, Table.checked_eq_ok_iff, exists_eq_left]
  rw [← Creation.columns, ← Creation.foreignKeys, hdeclared, foldl_applyForeignKey, List.map_map,
    List.forall_mem_map]
  constructor
  · rintro ⟨hconsistent, -⟩ column hmem
    exact (hcolumn column hmem).mp (hconsistent column hmem)
  · intro htargets
    exact ⟨fun column hmem => (hcolumn column hmem).mpr (htargets column hmem),
      List.forall_mem_nil _⟩

/-- A script is read exactly if none of its columns refers to a table without a name. -/
theorem exists_scriptTables_iff (dialect : Dialect) (script : String) :
    (∃ tables, scriptTables dialect script = .ok tables) ↔
      ∀ creation ∈ creations dialect script, ∀ column ∈ creation.columns,
        targetTable? creation.foreignKeys column ≠ some "" := by
  rw [scriptTables_eq_mapM, exists_mapM_eq_ok_iff]
  refine forall₂_congr fun creation hcreation => ?_
  exact exists_assemble_eq_ok_iff (isLinked_of_mem_creations hcreation)

end RelSchema.Ddl
