import RelSchema.Proofs.Ddl.Agreement
import RelSchema.Proofs.Ddl.RoundTrip

/-!
# Rendered scripts whose dialect is detected

Rendered tables may hold a word that points to another dialect than theirs, in a name, a type or a
default. This does no harm as long as MySQL is not involved. The statements for MySQL open no double
quotes, so all dialects read the same from them. The names in all other statements stand in double
quotes, and MySQL reads no table from those.
-/

namespace RelSchema.Ddl

open Sql (Sparing)
open Sql.Pending (runToken)

/-- The statement of a table, without its semicolon. -/
def statementText (dialect : Dialect) (table : Table) : List Char :=
  headText dialect table.name.toList ++ bodyText (clauseTexts dialect table) ++ [')']

theorem exists_toList_renderTables_cons (dialect : Dialect) (table : Table) (tables : List Table) :
    ∃ gap, (gap = [] ∨ gap = ['\n', '\n']) ∧ (renderTables dialect (table :: tables)).toList
      = statementText dialect table ++ ';' :: (gap ++ (renderTables dialect tables).toList) := by
  have htable : (renderTable dialect table).toList = statementText dialect table ++ [';'] :=
    toList_renderTable dialect table
  cases tables with
  | nil =>
      refine ⟨[], Or.inl rfl, ?_⟩
      have hsingle : renderTables dialect [table] = renderTable dialect table := by
        simp [renderTables, Text.joinWith]
      rw [hsingle, htable]
      rfl
  | cons next tables =>
      refine ⟨['\n', '\n'], Or.inr rfl, ?_⟩
      have hgap : "\n\n".toList = ['\n', '\n'] := by decide
      simp only [renderTables, Text.joinWith, List.map_cons, String.toList_intercalate,
        List.intercalate_cons_cons, hgap, htable, List.append_assoc, List.cons_append,
        List.nil_append]

/-- A rendered script has the statements of its tables. -/
theorem statements_renderTables (dialect : Dialect) {tables : List Table}
    (h : ∀ table ∈ tables, ∀ clause ∈ clauseTexts dialect table, Standing clause) :
    Sql.statements (Sql.stripComments (renderTables dialect tables).toList)
      = tables.map (statementText dialect) := by
  induction tables with
  | nil => rfl
  | cons table tables ih =>
      have hclauses : ∀ clause ∈ clauseTexts dialect table, Sql.SelfContained ',' clause :=
        fun clause hclause => (h table List.mem_cons_self clause hclause).contained
      have hfirst := statements_headText dialect table.name.toList (balanced_bodyText hclauses)
        (unmarked_bodyText hclauses)
      have hothers := ih fun other hother => h other (List.mem_cons_of_mem table hother)
      obtain ⟨gap, hgap, htext⟩ := exists_toList_renderTables_cons dialect table tables
      have hstrip : Sql.stripComments (gap ++ (renderTables dialect tables).toList)
          = gap ++ Sql.stripComments (renderTables dialect tables).toList := by
        rcases hgap with rfl | rfl
        · rfl
        · exact Sql.stripComments_append (by decide) (by decide) (by decide) _
      have hblank : ∀ c ∈ gap, Text.isBlank c = true :=
        isBlank_of_mem (by rcases hgap with rfl | rfl <;> simp)
      have hbehind : Sql.statements (gap ++ Sql.stripComments (renderTables dialect tables).toList)
          = tables.map (statementText dialect) := by
        rw [← hothers]
        exact Sql.splitTopLevel_gap Sql.isSeparating_semicolon hblank _
      rw [htext, statementText, hfirst, hstrip, hbehind]
      rfl

theorem not_isQuote_of_not_isReserved {c : Char} (hc : ¬ Text.IsReserved c) :
    Sql.isQuote c = false := by
  by_contra hquote
  have hmem : c ∈ Sql.quotes := by simpa [Sql.isQuote] using hquote
  refine hc (Text.isReserved_of_mem ?_)
  simp only [Sql.quotes, List.mem_cons, List.not_mem_nil, or_false] at hmem
  rcases hmem with rfl | rfl | rfl <;> decide

theorem not_isQuote_phrase {words : List String} {text : List Char} (h : Phrase words text)
    (hwords : ∀ word ∈ words, ∀ c ∈ word.toList, ¬ Text.IsReserved c) :
    ∀ c ∈ text, Sql.isQuote c = false := by
  induction h with
  | nil => exact List.forall_mem_nil _
  | @cons word words w text hupper htext ih =>
      have hw := Text.not_isReserved_of_upper hupper (hwords word List.mem_cons_self)
      have hrest := ih fun other hother => hwords other (List.mem_cons_of_mem word hother)
      intro c hc
      rcases List.mem_cons.mp hc with rfl | hc
      · decide
      rcases List.mem_append.mp hc with hc | hc
      · exact not_isQuote_of_not_isReserved (hw c hc)
      · exact hrest c hc

/-- No quote stands in a plain type. -/
theorem not_isQuote_plainTail {tail : List Char} (h : PlainTail tail) :
    ∀ c ∈ tail, Sql.isQuote c = false := by
  have hsuffixes : ∀ words ∈ typeSuffixes, ∀ word ∈ words, ∀ c ∈ word.toList,
      ¬ Text.IsReserved c := by decide
  induction h with
  | nil => exact List.forall_mem_nil _
  | phrase hwords htext htail ih =>
      intro c hc
      rcases List.mem_append.mp hc with hc | hc
      · exact not_isQuote_phrase htext (hsuffixes _ hwords) c hc
      · exact ih c hc
  | group hinner hline hblock htail ih =>
      intro c hc
      rw [List.cons_append, List.mem_cons, List.mem_append, List.mem_cons] at hc
      rcases hc with rfl | hc | rfl | hc
      · decide
      · exact (hinner c hc).1
      · decide
      · exact ih c hc

theorem sparing_typeText {column : Column} (htype : column.type = "" ∨
    ∃ word tail, column.type.toList = word ++ tail ∧ PlainType word tail) :
    Sparing '"' (typeText column) := by
  obtain ⟨word, tail, htext, hplain⟩ := typeText_plain htype
  refine .of_not_isQuote (by decide) fun c hc => ?_
  rw [htext] at hc
  rcases List.mem_append.mp hc with hc | hc
  · exact (hplain.code c hc).2.1
  · exact not_isQuote_plainTail hplain.tail c hc

theorem sparing_renderDefault {value : String} (hplain : PlainDefault value) :
    Sparing '"' (renderDefault value).toList := by
  rcases toList_renderDefault hplain with ⟨hword, -⟩ | henclosed
  · exact .of_not_isQuote (by decide) fun c hc => (Sql.isWordPart_iff.mp (hword.isWordPart c hc)).1
  · rw [henclosed]
    exact .enclosed (by decide) (by decide) _

theorem sparing_name (name : String) :
    Sparing '"' (Naming.enclosed Dialect.mysql.quoteChar name.toList) :=
  .enclosed (by decide) (by decide) _

theorem sparing_keyText (names : List String) : Sparing '"' (keyText .mysql names) := by
  have hnames : Sparing '"' (keyNames .mysql names) := by
    induction names with
    | nil => decide
    | cons name names ih =>
        cases names with
        | nil => simpa [keyNames] using sparing_name name
        | cons next names =>
            have hsplit : keyNames .mysql (name :: next :: names)
                = Naming.enclosed Dialect.mysql.quoteChar name.toList ++ [',', ' ']
                  ++ keyNames .mysql (next :: names) := by
              simp only [keyNames, List.map_cons, List.intercalate_cons_cons]
            rw [hsplit]
            exact ((sparing_name name).append (by decide)).append ih
  have hopen : Sparing '"' (keyWords ++ ['(']) := by decide
  have hsplit : keyText .mysql names = keyWords ++ ['('] ++ keyNames .mysql names ++ [')'] := by
    simp [keyText]
  rw [hsplit]
  exact (hopen.append hnames).append (by decide)

theorem sparing_columnText {keys : List String} {column : Column} (htype : column.type = "" ∨
    ∃ word tail, column.type.toList = word ++ tail ∧ PlainType word tail)
    (hdefault : ∀ value ∈ column.defaultValue, PlainDefault value) :
    Sparing '"' (columnText .mysql keys column) := by
  have hspace : Sparing '"' [' '] := by decide
  have hmark : Sparing '"' (nullability keys column).text.toList := by
    cases nullability keys column <;> decide
  have hpart : Sparing '"' (defaultPart (defaultText? column)) := by
    cases hvalue : column.defaultValue with
    | none =>
        simp only [defaultText?, hvalue, Option.map_none, defaultPart]
        decide
    | some value =>
        have hwords : Sparing '"' (' ' :: ("DEFAULT".toList ++ [' '])) := by decide
        have htext := hwords.append (sparing_renderDefault (hdefault value hvalue))
        simpa [defaultText?, hvalue, defaultPart] using htext
  exact (sparing_name column.name).append
    (hspace.append ((sparing_typeText htype).append (hmark.append hpart)))

theorem sparing_of_mem_clauseTexts {table : Table} (h : Renderable table) :
    ∀ clause ∈ clauseTexts .mysql table, Sparing '"' clause :=
  forall_mem_clauseTexts (fun column hcolumn =>
    sparing_columnText (h.type_plain column hcolumn) (h.default_plain column hcolumn))
    (sparing_keyText table.keyColumns)

theorem sparing_clausesText {clauses : List (List Char)}
    (hclauses : ∀ clause ∈ clauses, Sparing '"' clause) : Sparing '"' (clausesText clauses) := by
  induction clauses with
  | nil => decide
  | cons clause rest ih =>
      have hclause := hclauses clause List.mem_cons_self
      cases rest with
      | nil => exact hclause.append (by decide)
      | cons next rest =>
          have hseparator : Sparing '"' [',', '\n', ' ', ' '] := by decide
          exact hclause.append (hseparator.append
            (ih fun other hother => hclauses other (List.mem_cons_of_mem clause hother)))

theorem sparing_statementText {table : Table} (h : Renderable table) :
    Sparing '"' (statementText .mysql table) := by
  have hwords : Sparing '"' headWords := by decide
  have hhead : Sparing '"' (headText .mysql table.name.toList) :=
    (hwords.append (sparing_name table.name)).append (by decide)
  have hgap : Sparing '"' ['\n', ' ', ' '] := by decide
  have hbody : Sparing '"' (bodyText (clauseTexts .mysql table)) :=
    hgap.append (sparing_clausesText (sparing_of_mem_clauseTexts h))
  exact (hhead.append hbody).append (by decide)

theorem standing_of_mem_clauseTexts (dialect : Dialect) {table : Table} (h : Renderable table) :
    ∀ clause ∈ clauseTexts dialect table, Standing clause :=
  standing_clauseTexts dialect fun column hcolumn =>
    standing_columnText (h.type_plain column hcolumn) (h.default_plain column hcolumn)

/-- All dialects read the same tables from what is rendered for MySQL. -/
theorem scriptTables_renderTables_mysql {tables : List Table}
    (h : ∀ table ∈ tables, Renderable table) (dialect : Dialect) :
    scriptTables dialect (renderTables .mysql tables)
      = scriptTables .mysql (renderTables .mysql tables) := by
  refine scriptTables_eq_of_agreeOn fun statement hstatement => ?_
  rw [statements_renderTables .mysql fun table htable =>
    standing_of_mem_clauseTexts _ (h table htable)] at hstatement
  obtain ⟨table, htable, rfl⟩ := List.mem_map.mp hstatement
  exact .of_spares dialect .mysql (sparing_statementText (h table htable)).spares

/-- MySQL takes a name in double quotes for a string, and so reads no table of this name. -/
theorem statementTable?_mysql {dialect : Dialect} (hdialect : dialect ≠ .mysql) (table : Table) :
    statementTable? .mysql (statementText dialect table) = none := by
  have hquote : dialect.quoteChar = '"' := by
    cases dialect with
    | mysql => exact absurd rfl hdialect
    | sqlite => rfl
    | postgres => rfl
  have htokens := tokensAt_headText dialect table.name.toList
    (bodyText (clauseTexts dialect table) ++ [')'])
  rw [tokens_of_ne_mysql hdialect, ← List.append_assoc, hquote] at htokens
  set name := runToken '"' 13 table.name.toList.reverse
    (13 + (Naming.enclosed '"' table.name.toList).length) with hname
  have hkind : (readToken .mysql name).kind = .string := rfl
  have hguard : ∀ more, startsWith ["IF", "NOT", "EXISTS"] (readToken .mysql name :: more)
      = false := by
    intro more
    rw [startsWith, isKeyword_of_kind_ne (by rw [hkind]; decide)]
    rfl
  rw [statementTable?, tokens, statementText, htokens]
  simp only [List.map_cons, List.drop_succ_cons, List.drop_zero, hguard, readTable?]
  split <;> rfl

theorem scriptTables_mysql_renderTables {dialect : Dialect} (hdialect : dialect ≠ .mysql)
    {tables : List Table} (h : ∀ table ∈ tables, Renderable table) :
    scriptTables .mysql (renderTables dialect tables) = .ok [] := by
  have hnone : ∀ statement ∈ tables.map (statementText dialect),
      statementTable? .mysql statement = none := by
    intro statement hstatement
    obtain ⟨table, -, rfl⟩ := List.mem_map.mp hstatement
    exact statementTable?_mysql hdialect table
  rw [scriptTables, statements_renderTables dialect fun table htable =>
    standing_of_mem_clauseTexts _ (h table htable), List.filterMap_eq_nil_iff.mpr hnone]
  rfl

theorem scriptTables_renderTables_ne_nil (dialect : Dialect) {table : Table}
    (h : Renderable table) (tables : List Table) :
    scriptTables dialect (renderTables dialect (table :: tables)) ≠ .ok [] := by
  have hne : clauseTexts dialect table ≠ [] := by simp [clauseTexts, h.columns_ne]
  rw [tablesIn_renderTables_cons dialect tables h.name_ne hne (standing_of_mem_clauseTexts _ h),
    assemble_renderable h]
  change (scriptTables dialect (renderTables dialect tables) >>= _) ≠ _
  cases scriptTables dialect (renderTables dialect tables) with
  | error failure =>
      intro hok
      cases hok
  | ok others => exact fun hok => List.cons_ne_nil _ _ (Except.ok.inj hok)

/-- Rendered tables are read in the detected dialect as in their own one, unless they are rendered
for another dialect than MySQL and MySQL is detected. -/
theorem parse_renderTables_none_iff (dialect : Dialect) {tables : List Table}
    (h : ∀ table ∈ tables, Renderable table) :
    parse (renderTables dialect tables) none
        = parse (renderTables dialect tables) (some dialect.name) ↔
      dialect = .mysql ∨ tables = [] ∨ detectDialect (renderTables dialect tables) ≠ .mysql := by
  rw [parse_none, parse_dialectName]
  by_cases hdialect : dialect = .mysql
  · subst hdialect
    exact iff_of_true (scriptTables_renderTables_mysql h _) (Or.inl rfl)
  cases tables with
  | nil =>
      have hempty : ∀ other, scriptTables other (renderTables dialect []) = .ok [] := fun _ => rfl
      exact iff_of_true (by rw [hempty, hempty]) (Or.inr (Or.inl rfl))
  | cons table tables =>
      have hlost := scriptTables_mysql_renderTables hdialect h
      have hread := scriptTables_renderTables_ne_nil dialect (h table List.mem_cons_self) tables
      rw [scriptTables_eq_iff, hlost, ← scriptTables_of_ne_mysql hdialect]
      simp [hdialect, hread.symm]

/-- Nothing in the ledger points to MySQL, for which it is rendered. -/
theorem parse_renderTables_none_ledger :
    (∀ table ∈ [ledger], Renderable table) ∧
      parse (renderTables .mysql [ledger]) none
        = parse (renderTables .mysql [ledger]) (some Dialect.mysql.name) := by
  have hledger : ∀ table ∈ [ledger], Renderable table := by
    intro table htable
    rw [List.mem_singleton.mp htable]
    exact renderable_ledger
  exact ⟨hledger, (parse_renderTables_none_iff .mysql hledger).mpr (Or.inl rfl)⟩

/-- A table with a column that is named like an option of MySQL. -/
def numbered : Table where
  name := "sequences"
  columns := [{ name := "auto_increment", type := "INT" }]

theorem renderable_numbered : Renderable numbered where
  name_ne := by decide
  columns_ne := by decide
  column_name_ne := by decide
  distinct := by
    unfold DistinctFolds
    decide
  type_plain := by
    intro column hcolumn
    rw [List.mem_singleton.mp hcolumn]
    exact Or.inr ⟨"INT".toList, [], by decide,
      plainType_of_word (by decide) (by decide) (by decide) (by decide) (by decide) .nil⟩
  keys_nodup := by decide
  keys_mem := by decide
  default_plain := by
    unfold PlainDefault
    decide

/-- The name of the column points to MySQL, and with the dialect detected the table is lost. -/
theorem parse_renderTables_none_numbered :
    (∀ table ∈ [numbered], Renderable table) ∧
      parse (renderTables .sqlite [numbered]) none = .ok [] ∧
      parse (renderTables .sqlite [numbered]) none
        ≠ parse (renderTables .sqlite [numbered]) (some Dialect.sqlite.name) := by
  refine ⟨?_, by decide +kernel, by decide +kernel⟩
  intro table htable
  rw [List.mem_singleton.mp htable]
  exact renderable_numbered

end RelSchema.Ddl
