import RelSchema.Proofs.Ddl.Statement

/-!
# Rendered tables

A rendered table is the head of a statement, clauses with commas between them, and the end of the
statement. If each clause stands for itself, the clauses are the definitions that are read, and the
tables of the rest of the script follow.
-/

namespace RelSchema.Ddl

open Sql (Token Balanced SelfContained Trimmed)
open Sql.Pending (wordToken runToken parenToken)

/-- Whether a text is a definition of its own between the commas of a body. -/
structure Standing (text : List Char) : Prop where
  contained : SelfContained ',' text
  trimmed : Trimmed text

theorem isMark_space_left (d : Char) : Sql.commentStyle.isMark ' ' d = false :=
  Sql.isMark_of_left (by decide) (by decide)

theorem isMark_space_right (c : Char) : Sql.commentStyle.isMark c ' ' = false :=
  Sql.isMark_of_right (by decide) (by decide)

theorem selfContained_defaultPart {default? : Option (List Char)}
    (hdefault : ∀ text ∈ default?, SelfContained ',' text) :
    SelfContained ',' (defaultPart default?) := by
  cases default? with
  | none => exact .nil ','
  | some text =>
      have hkeyword : SelfContained ',' (' ' :: ("DEFAULT".toList ++ [' '])) := by decide
      have hlast : (' ' :: ("DEFAULT".toList ++ [' '])).getLast? = some ' ' := by decide
      have hsplit : defaultPart (some text) = ' ' :: ("DEFAULT".toList ++ [' ']) ++ text := by
        simp only [defaultPart, List.cons_append, List.append_assoc, List.nil_append]
      rw [hsplit]
      refine hkeyword.append (hdefault text rfl) fun c hc d _ => ?_
      rw [hlast] at hc
      cases hc
      exact isMark_space_left d

theorem selfContained_modifierPart (mark : Nullability) {default? : Option (List Char)}
    (hdefault : ∀ text ∈ default?, SelfContained ',' text) :
    SelfContained ',' (modifierPart mark default?) := by
  have hmark : SelfContained ',' mark.text.toList := by
    cases mark <;> decide
  refine hmark.append (selfContained_defaultPart hdefault) fun c _ d hd => ?_
  cases default? with
  | none => cases hd
  | some text =>
      cases hd
      exact isMark_space_right c

/-- A clause is self-contained if its type and its default are. -/
theorem selfContained_clauseText (dialect : Dialect) (name : List Char) {type : List Char}
    (mark : Nullability) {default? : Option (List Char)} (htype : SelfContained ',' type)
    (hdefault : ∀ text ∈ default?, SelfContained ',' text) :
    SelfContained ',' (clauseText dialect name type mark default?) := by
  have hquote := isQuote_quoteChar dialect
  have hname : SelfContained ',' (Naming.enclosed dialect.quoteChar name) := .enclosed hquote name
  have hspace : SelfContained ',' [' '] := by decide
  have hrest : SelfContained ',' (type ++ modifierPart mark default?) := by
    refine htype.append (selfContained_modifierPart mark hdefault) fun c _ d hd => ?_
    have hhead : d = ' ' := by
      cases mark <;> cases default? <;> cases hd <;> rfl
    rw [hhead]
    exact isMark_space_right c
  refine hname.append (hspace.append hrest ?_) ?_
  · intro c hc d _
    cases hc
    exact isMark_space_left d
  · intro c _ d hd
    cases hd
    exact isMark_space_right c

/-- A clause stands for itself if its type and its default are self-contained and it does not end
in a blank. -/
theorem standing_clauseText (dialect : Dialect) (name : List Char) {type : List Char}
    (mark : Nullability) {default? : Option (List Char)} (htype : SelfContained ',' type)
    (hdefault : ∀ text ∈ default?, SelfContained ',' text)
    (hlast : ∀ c ∈ (' ' :: (type ++ modifierPart mark default?)).getLast?, Text.isBlank c = false) :
    Standing (clauseText dialect name type mark default?) := by
  refine ⟨selfContained_clauseText dialect name mark htype hdefault,
    by simp [clauseText, Naming.enclosed], ?_, ?_⟩
  · intro c hc
    cases hc
    cases dialect <;> decide
  · intro c hc
    rw [clauseText, List.getLast?_append] at hc
    refine hlast c ?_
    cases hgetLast : (' ' :: (type ++ modifierPart mark default?)).getLast? with
    | none => exact absurd (List.getLast?_eq_none_iff.mp hgetLast) (List.cons_ne_nil _ _)
    | some last =>
        rw [hgetLast] at hc
        exact hc

/-- The end of a body, from one of its clauses on. -/
def clausesText : List (List Char) → List Char
  | [] => ['\n']
  | [clause] => clause ++ ['\n']
  | clause :: next :: rest => clause ++ ([',', '\n', ' ', ' '] ++ clausesText (next :: rest))

def bodyText (clauses : List (List Char)) : List Char :=
  ['\n', ' ', ' '] ++ clausesText clauses

theorem isBlank_of_mem {gap : List Char} (hgap : gap ⊆ ['\n', ' ']) :
    ∀ c ∈ gap, Text.isBlank c = true := by
  have hall : ∀ c ∈ ['\n', ' '], Text.isBlank c = true := by decide
  exact fun c hc => hall c (hgap hc)

theorem definitions_cons {gap clause : List Char} (hgap : ∀ c ∈ gap, Text.isBlank c = true)
    (hclause : Standing clause) (rest : List Char) :
    Sql.definitions (gap ++ (clause ++ ',' :: rest)) = clause :: Sql.definitions rest := by
  have hsplit := Sql.splitTopLevel_append Sql.isSeparating_comma hgap (List.forall_mem_nil _)
    hclause.contained.balanced hclause.contained.whole hclause.trimmed rest
  rw [List.append_nil, List.append_assoc] at hsplit
  exact hsplit

/-- The definitions of a body are its clauses. -/
theorem definitions_clausesText {gap : List Char} (hgap : ∀ c ∈ gap, Text.isBlank c = true)
    {clauses : List (List Char)} (hne : clauses ≠ [])
    (hclauses : ∀ clause ∈ clauses, Standing clause) :
    Sql.definitions (gap ++ clausesText clauses) = clauses := by
  induction clauses generalizing gap with
  | nil => exact absurd rfl hne
  | cons clause rest ih =>
      have hclause := hclauses clause List.mem_cons_self
      cases rest with
      | nil =>
          have hgap' : ∀ c ∈ ['\n'], Text.isBlank c = true := isBlank_of_mem (by simp)
          have hsplit := Sql.splitTopLevel_eq_singleton Sql.isSeparating_comma hgap hgap'
            hclause.contained.balanced
            hclause.contained.whole hclause.trimmed
          rw [List.append_assoc] at hsplit
          exact hsplit
      | cons next rest =>
          rw [clausesText, List.cons_append, definitions_cons hgap hclause,
            ih (isBlank_of_mem (by simp)) (List.cons_ne_nil _ _)
              fun other hother => hclauses other (List.mem_cons_of_mem clause hother)]

theorem balanced_clausesText {clauses : List (List Char)}
    (hclauses : ∀ clause ∈ clauses, SelfContained ',' clause) : Balanced (clausesText clauses) := by
  induction clauses with
  | nil => exact rfl
  | cons clause rest ih =>
      have hclause := (hclauses clause List.mem_cons_self).balanced
      cases rest with
      | nil => exact hclause.append rfl
      | cons next rest =>
          have hseparator : Balanced [',', '\n', ' ', ' '] := by decide
          exact hclause.append (hseparator.append
            (ih fun other hother => hclauses other (List.mem_cons_of_mem clause hother)))

theorem unmarked_clausesText {clauses : List (List Char)}
    (hclauses : ∀ clause ∈ clauses, SelfContained ',' clause) :
    Sql.Unmarked (clausesText clauses) := by
  induction clauses with
  | nil => exact rfl
  | cons clause rest ih =>
      have hclause := hclauses clause List.mem_cons_self
      have hseam : ∀ c ∈ clause.getLast?, ∀ d ∈ ['\n', ','], Sql.commentStyle.isMark c d = false := by
        intro c _ d hd
        refine Sql.isMark_of_right ?_ ?_ <;> rintro rfl <;> simp at hd
      cases rest with
      | nil =>
          refine hclause.unmarked.append rfl hclause.balanced.openQuote_eq fun c hc d hd => ?_
          exact hseam c hc d (by cases hd; simp)
      | cons next rest =>
          have hrest := ih fun other hother => hclauses other (List.mem_cons_of_mem clause hother)
          have hseparator : Sql.Unmarked ([',', '\n', ' ', ' '] ++ clausesText (next :: rest)) := by
            refine Sql.Unmarked.append (by decide) hrest (by decide) fun c hc d _ => ?_
            cases hc
            exact Sql.isMark_of_left (by decide) (by decide)
          refine hclause.unmarked.append hseparator hclause.balanced.openQuote_eq
            fun c hc d hd => ?_
          exact hseam c hc d (by cases hd; simp)

def typeText (column : Column) : List Char :=
  if column.type == "" then "TEXT".toList else column.type.toList

def defaultText? (column : Column) : Option (List Char) :=
  column.defaultValue.map fun value => (renderDefault value).toList

def columnText (dialect : Dialect) (keys : List String) (column : Column) : List Char :=
  clauseText dialect column.name.toList (typeText column) (nullability keys column)
    (defaultText? column)

theorem toList_columnClause (dialect : Dialect) (keys : List String) (column : Column) :
    (columnClause dialect keys column).toList = columnText dialect keys column := by
  have htype : (if column.type == "" then "TEXT" else column.type).toList = typeText column := by
    rw [typeText]
    split <;> rfl
  have hspace : " ".toList = [' '] := by decide
  have hdefault : " DEFAULT ".toList = ' ' :: ("DEFAULT".toList ++ [' ']) := by decide
  unfold columnClause
  simp only [columnText, clauseText, modifierPart, Naming.quoteIdentifier,
    String.toList_append, htype, hspace, String.toList_ofList, List.append_assoc,
    List.cons_append, List.nil_append]
  cases hvalue : column.defaultValue with
  | none => simp [defaultText?, hvalue, defaultPart]
  | some value =>
      simp only [defaultText?, hvalue, Option.map_some, defaultPart, String.toList_append, hdefault,
        List.append_assoc, List.cons_append, List.nil_append]

def clauseTexts (dialect : Dialect) (table : Table) : List (List Char) :=
  table.columns.map (columnText dialect table.keyColumns) ++
    (keyClause dialect table.keyColumns).map String.toList

theorem intercalate_eq_clausesText (clauses : List (List Char)) :
    [',', '\n', ' ', ' '].intercalate clauses ++ ['\n'] = clausesText clauses := by
  induction clauses with
  | nil => rfl
  | cons clause rest ih =>
      cases rest with
      | nil => rw [List.intercalate_singleton, clausesText]
      | cons next rest =>
          rw [List.intercalate_cons_cons, List.append_assoc, List.append_assoc, ih, clausesText]

theorem toList_renderTable (dialect : Dialect) (table : Table) :
    (renderTable dialect table).toList
      = headText dialect table.name.toList ++ bodyText (clauseTexts dialect table)
          ++ [')'] ++ [';'] := by
  have hopen : " (\n  ".toList = [' ', '('] ++ ['\n', ' ', ' '] := by decide
  have hclose : "\n);".toList = ['\n'] ++ [')'] ++ [';'] := by decide
  have hcomma : ",\n  ".toList = [',', '\n', ' ', ' '] := by decide
  have hclauses : (table.columns.map (columnClause dialect table.keyColumns)
      ++ keyClause dialect table.keyColumns).map String.toList = clauseTexts dialect table := by
    have hcolumns : String.toList ∘ columnClause dialect table.keyColumns
        = columnText dialect table.keyColumns :=
      funext fun column => toList_columnClause dialect table.keyColumns column
    rw [List.map_append, List.map_map, clauseTexts, hcolumns]
  unfold renderTable
  simp only [bodyText, ← intercalate_eq_clausesText, headText, Text.joinWith, String.toList_append, String.toList_intercalate, hclauses, hopen, hclose, hcomma,
    Naming.quoteIdentifier, String.toList_ofList, List.append_assoc]
  rfl

theorem balanced_bodyText {clauses : List (List Char)}
    (hclauses : ∀ clause ∈ clauses, SelfContained ',' clause) : Balanced (bodyText clauses) :=
  Sql.Balanced.append (by decide) (balanced_clausesText hclauses)

theorem unmarked_bodyText {clauses : List (List Char)}
    (hclauses : ∀ clause ∈ clauses, SelfContained ',' clause) :
    Sql.Unmarked (bodyText clauses) := by
  refine Sql.Unmarked.append (by decide) (unmarked_clausesText hclauses) (by decide) ?_
  intro c hc d _
  cases hc
  exact Sql.isMark_of_left (by decide) (by decide)

/-- A rendered table is read from its body, in front of the tables of what follows, if nothing in
its clauses reaches beyond them. -/
theorem tablesIn_renderTable (dialect : Dialect) {table : Table} (hname : table.name ≠ "")
    (hclauses : ∀ clause ∈ clauseTexts dialect table, SelfContained ',' clause)
    (hblank : Text.trim (bodyText (clauseTexts dialect table)) ≠ []) (rest : List Char) :
    tablesIn dialect (Sql.stripComments ((renderTable dialect table).toList ++ rest))
      = (do
        let first ← assemble table.name
          ((Sql.definitions (bodyText (clauseTexts dialect table))).map (readDefinition dialect))
        let others ← tablesIn dialect (Sql.stripComments rest)
        return first :: others) := by
  have hname' : table.name.toList ≠ [] := by simpa using hname
  have htables := tablesIn_statement dialect hname' (balanced_bodyText hclauses)
    (unmarked_bodyText hclauses) hblank rest
  rw [String.ofList_toList] at htables
  rw [toList_renderTable, ← htables, List.append_assoc _ [';'] rest]
  rfl

/-- The trimmed text of definitions is not empty. -/
theorem trim_ne_nil_of_definitions {body : List Char} (h : Sql.definitions body ≠ []) :
    Text.trim body ≠ [] := by
  intro hnil
  refine h ?_
  obtain ⟨before, after, hbody, hbefore, hafter⟩ := Text.exists_eq_append_trim body
  rw [hnil, List.append_nil] at hbody
  rw [hbody, Sql.definitions, ← List.append_nil (before ++ after),
    Sql.splitTopLevel_gap Sql.isSeparating_comma]
  · decide
  · intro c hc
    rcases List.mem_append.mp hc with hc | hc
    · exact hbefore c hc
    · exact hafter c hc

theorem toList_renderTables (dialect : Dialect) (tables : List Table) :
    (renderTables dialect tables).toList
      = ['\n', '\n'].intercalate (tables.map fun table => (renderTable dialect table).toList) := by
  have hgap : "\n\n".toList = ['\n', '\n'] := by decide
  rw [renderTables, Text.joinWith, String.toList_intercalate, List.map_map, hgap]
  rfl

theorem exists_toList_renderTables (dialect : Dialect) (table : Table) (tables : List Table) :
    ∃ rest, (renderTables dialect (table :: tables)).toList
      = (renderTable dialect table).toList ++ rest := by
  rw [toList_renderTables, List.map_cons]
  cases tables with
  | nil => exact ⟨[], by rw [List.map_nil, List.intercalate_singleton, List.append_nil]⟩
  | cons next tables =>
      rw [List.map_cons, List.intercalate_cons_cons, List.append_assoc]
      exact ⟨_, rfl⟩

/-- What a text adds to the tables of any script behind it, it adds to those of the texts that follow
it behind blank lines. -/
theorem tablesIn_intercalate_cons {dialect : Dialect} {text : List Char}
    (add : Except Failure (List Table) → Except Failure (List Table))
    (hadd : ∀ rest, tablesIn dialect (Sql.stripComments (text ++ rest))
      = add (tablesIn dialect (Sql.stripComments rest))) (texts : List (List Char)) :
    tablesIn dialect (Sql.stripComments (['\n', '\n'].intercalate (text :: texts)))
      = add (tablesIn dialect (Sql.stripComments (['\n', '\n'].intercalate texts))) := by
  cases texts with
  | nil =>
      have htables := hadd []
      rw [List.append_nil] at htables
      rw [List.intercalate_singleton, htables]
      rfl
  | cons next texts =>
      have hgap : Sql.stripComments (['\n', '\n'] ++ ['\n', '\n'].intercalate (next :: texts))
          = ['\n', '\n'] ++ Sql.stripComments (['\n', '\n'].intercalate (next :: texts)) :=
        Sql.stripComments_append (by decide) (by decide) (by decide) _
      rw [List.intercalate_cons_cons, List.append_assoc, hadd, hgap,
        tablesIn_gap dialect (isBlank_of_mem (by simp))]

/-- What a rendered table adds to the tables of any script behind it, it adds to those of the other
rendered tables. -/
theorem scriptTables_renderTables_cons {dialect : Dialect} {table : Table}
    (add : Except Failure (List Table) → Except Failure (List Table))
    (hadd : ∀ rest, tablesIn dialect (Sql.stripComments ((renderTable dialect table).toList ++ rest))
      = add (tablesIn dialect (Sql.stripComments rest))) (tables : List Table) :
    scriptTables dialect (renderTables dialect (table :: tables))
      = add (scriptTables dialect (renderTables dialect tables)) := by
  rw [scriptTables_eq, scriptTables_eq, toList_renderTables, toList_renderTables, List.map_cons]
  exact tablesIn_intercalate_cons add hadd _

/-- A rendered table whose clauses stand for themselves is read from them, in front of the other
tables. -/
theorem tablesIn_renderTables_cons (dialect : Dialect) {table : Table} (tables : List Table)
    (hname : table.name ≠ "") (hne : clauseTexts dialect table ≠ [])
    (hclauses : ∀ clause ∈ clauseTexts dialect table, Standing clause) :
    scriptTables dialect (renderTables dialect (table :: tables))
      = (do
        let first ← assemble table.name
          ((clauseTexts dialect table).map (readDefinition dialect))
        let others ← scriptTables dialect (renderTables dialect tables)
        return first :: others) := by
  have hdefinitions : Sql.definitions (bodyText (clauseTexts dialect table))
      = clauseTexts dialect table :=
    definitions_clausesText (isBlank_of_mem (by simp)) hne hclauses
  refine scriptTables_renderTables_cons (fun others => do
    let first ← assemble table.name ((clauseTexts dialect table).map (readDefinition dialect))
    let others ← others
    return first :: others) (fun rest => ?_) tables
  rw [tablesIn_renderTable dialect hname (fun clause hclause => (hclauses clause hclause).contained)
    (trim_ne_nil_of_definitions (by rw [hdefinitions]; exact hne)), hdefinitions]

theorem scriptTables_renderTables_nil (dialect : Dialect) :
    scriptTables dialect (renderTables dialect []) = .ok [] := rfl

/-- Tables whose clauses stand for themselves are read from them one by one. -/
theorem scriptTables_renderTables_eq_mapM (dialect : Dialect) {tables : List Table}
    (h : ∀ table ∈ tables, table.name ≠ "" ∧ clauseTexts dialect table ≠ [] ∧
      ∀ clause ∈ clauseTexts dialect table, Standing clause) :
    scriptTables dialect (renderTables dialect tables) = tables.mapM fun table =>
      assemble table.name ((clauseTexts dialect table).map (readDefinition dialect)) := by
  induction tables with
  | nil => exact scriptTables_renderTables_nil dialect
  | cons table tables ih =>
      obtain ⟨hname, hne, hclauses⟩ := h table List.mem_cons_self
      rw [tablesIn_renderTables_cons dialect tables hname hne hclauses, List.mapM_cons,
        ih fun other hother => h other (List.mem_cons_of_mem table hother)]

end RelSchema.Ddl
