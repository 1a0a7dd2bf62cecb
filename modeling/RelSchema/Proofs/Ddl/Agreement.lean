import RelSchema.Ddl.Script
import RelSchema.Proofs.Ddl.Token
import RelSchema.Proofs.Sql.Spare

/-!
# Scripts with one meaning

The dialects read the same tables from a script if they read the same tokens from the parts of its
statements. SQLite and PostgreSQL read the same tokens from all texts, and MySQL reads those tokens
too from texts without a name in double quotes.
-/

namespace RelSchema.Ddl

open Sql (StartsInCode)

theorem readToken_of_ne_mysql {dialect : Dialect} (hdialect : dialect ≠ .mysql) :
    readToken dialect = id := by
  funext token
  rw [readToken, beq_eq_false_iff_ne.mpr hdialect]
  rfl

theorem tokens_of_ne_mysql {dialect : Dialect} (hdialect : dialect ≠ .mysql) (text : List Char) :
    tokens dialect text = Sql.tokenize text := by
  rw [tokens, readToken_of_ne_mysql hdialect, List.map_id]

theorem tokens_of_spares (dialect : Dialect) {text : List Char}
    (htext : Sql.spares '"' none text = true) : tokens dialect text = Sql.tokenize text := by
  refine (List.map_congr_left fun token htoken => ?_).trans (List.map_id _)
  have hquote : (token.quote == some '"') = false :=
    beq_eq_false_iff_ne.mpr (Sql.quote_ne_of_mem_tokensFrom htext htoken)
  rw [readToken, hquote, Bool.and_false]
  rfl

/-- Whether two dialects read the same tokens from all parts of a text that start in code. -/
def AgreeOn (first second : Dialect) (text : List Char) : Prop :=
  ∀ part, StartsInCode part text → tokens first part = tokens second part

namespace AgreeOn

variable {first second : Dialect} {text : List Char}

theorem of_ne_mysql (hfirst : first ≠ .mysql) (hsecond : second ≠ .mysql) (text : List Char) :
    AgreeOn first second text := by
  intro part _
  rw [tokens_of_ne_mysql hfirst, tokens_of_ne_mysql hsecond]

theorem of_spares (first second : Dialect) (htext : Sql.spares '"' none text = true) :
    AgreeOn first second text := by
  intro part hpart
  rw [tokens_of_spares first (hpart.spares htext), tokens_of_spares second (hpart.spares htext)]

theorem readDefinition_eq (h : AgreeOn first second text) {part : List Char}
    (hpart : StartsInCode part text) : readDefinition first part = readDefinition second part := by
  rw [readDefinition, h part hpart]
  rfl

theorem readTable?_eq (h : AgreeOn first second text) {tokens : List Sql.Token}
    (htokens : ∀ token ∈ tokens.head?, StartsInCode (text.drop token.stop) text) :
    readTable? first text tokens = readTable? second text tokens := by
  cases tokens with
  | nil => rfl
  | cons head rest =>
      have hdefinitions : ∀ definition ∈ Sql.definitions
          (Sql.Brackets.inside {} (text.drop head.stop)),
          readDefinition first definition = readDefinition second definition := by
        intro definition hdefinition
        have hbody := Sql.startsInCode_of_mem_splitTopLevel (by decide) hdefinition
        exact h.readDefinition_eq
          ((hbody.trans (Sql.startsInCode_inside _)).trans (htokens head rfl))
      simp only [readTable?, List.map_congr_left hdefinitions]

theorem statementTable?_eq (h : AgreeOn first second text) :
    statementTable? first text = statementTable? second text := by
  have hbehind : ∀ token ∈ tokens second text, StartsInCode (text.drop token.stop) text := by
    intro token htoken
    obtain ⟨original, horiginal, rfl⟩ := List.mem_map.mp htoken
    rw [readToken_stop]
    exact Sql.startsInCode_drop_of_mem_tokens horiginal
  have htail : ∀ n, ∀ token ∈ ((tokens second text).drop n).head?,
      StartsInCode (text.drop token.stop) text := fun n token htoken =>
    hbehind token (List.mem_of_mem_drop (List.mem_of_mem_head? htoken))
  simp only [statementTable?, h text (.refl text)]
  split
  · refine h.readTable?_eq fun token htoken => ?_
    split at htoken
    · rw [List.drop_drop] at htoken
      exact htail _ token htoken
    · exact htail _ token htoken
  · rfl

end AgreeOn

theorem scriptTables_eq_of_agreeOn {first second : Dialect} {script : String}
    (h : ∀ statement ∈ Sql.statements (Sql.stripComments script.toList),
      AgreeOn first second statement) : scriptTables first script = scriptTables second script := by
  rw [scriptTables, scriptTables,
    List.filterMap_congr fun statement hstatement => (h statement hstatement).statementTable?_eq]

/-- All dialects but MySQL read the same tables from a script. -/
theorem scriptTables_of_ne_mysql {dialect : Dialect} (hdialect : dialect ≠ .mysql)
    (script : String) : scriptTables dialect script = scriptTables .sqlite script :=
  scriptTables_eq_of_agreeOn fun statement _ => .of_ne_mysql hdialect (by decide) statement

/-- Two dialects read different tables only if one of them is MySQL. -/
theorem scriptTables_eq_iff {first second : Dialect} {script : String} :
    scriptTables first script = scriptTables second script ↔
      (first = .mysql ↔ second = .mysql) ∨
        scriptTables .mysql script = scriptTables .sqlite script := by
  by_cases hfirst : first = .mysql <;> by_cases hsecond : second = .mysql
  · simp [hfirst, hsecond]
  · simp [hfirst, hsecond, scriptTables_of_ne_mysql hsecond]
  · simp [hfirst, hsecond, scriptTables_of_ne_mysql hfirst, eq_comm]
  · simp [hfirst, hsecond, scriptTables_of_ne_mysql hfirst, scriptTables_of_ne_mysql hsecond]

theorem dialectFor_none (script : String) :
    dialectFor script none = .ok (detectDialect script) := by
  have hnone : Dialect.ofOptionalName none = .ok none := rfl
  simp only [dialectFor, hnone, Except.map, Option.getD_none]

theorem parse_none (script : String) :
    parse script none = scriptTables (detectDialect script) script := by
  rw [parse, dialectFor_none]
  rfl

end RelSchema.Ddl
