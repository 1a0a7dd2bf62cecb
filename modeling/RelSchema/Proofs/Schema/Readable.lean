import RelSchema.Proofs.Dbml.Reader
import RelSchema.Proofs.Ddl.Created
import RelSchema.Proofs.Models.Target

/-!
# Texts that can be read

What cannot be understood is passed over, with two exceptions: a column of a script that refers to a
table without a name, and a relation field of a structure whose type names no target. Markup always
gives tables unless it has none. All tables that are given keep the rules of columns and relations.
-/

namespace RelSchema

theorem Ddl.faults_of_scriptTables {dialect : Dialect} {script : String} {tables : List Table}
    (h : scriptTables dialect script = .ok tables) : ∀ table ∈ tables, table.faults = [] := by
  intro table htable
  rw [scriptTables_eq_mapM] at h
  obtain ⟨creation, -, hassemble⟩ := exists_of_mem_mapM h htable
  obtain ⟨rfl, hrules⟩ := Table.checked_eq_ok_iff.mp hassemble
  exact Table.faults_eq_nil_iff.mpr hrules

theorem Dbml.faults_of_parse {text : String} {tables : List Table} (h : parse text = .ok tables) :
    ∀ table ∈ tables, table.faults = [] := by
  have hkept : Kept (fun _ => True) fun table => table.relations = [] :=
    ⟨fun _ => trivial, fun _ _ _ => rfl, fun _ _ htable => htable⟩
  intro table htable
  refine Table.faults_eq_nil_iff.mpr ⟨consistent_of_parse h table htable, ?_⟩
  rw [hkept.of_parse h table htable]
  exact List.forall_mem_nil _

/-- A script is read exactly if none of its columns refers to a table without a name, structures
exactly if all their relation fields name a target, and markup exactly if it has a table. -/
theorem readable_iff (text : String) (dialect : Dialect) (tag : String) :
    ((∃ tables, Ddl.parse text (some dialect.name) = .ok tables ∧
        ∀ table ∈ tables, table.faults = []) ↔
      ∀ creation ∈ Ddl.creations dialect text, ∀ column ∈ creation.columns,
        Ddl.targetTable? creation.foreignKeys column ≠ some "") ∧
    ((∃ tables, Models.parse text dialect tag = .ok tables ∧
        ∀ table ∈ tables, table.faults = []) ↔
      ∀ declaration ∈ Models.declarations tag (Models.stripComments text.toList),
        declaration.columns ≠ [] → ∀ field ∈ declaration.relations,
          ∃ c ∈ field.type.toList, Text.isWordChar c = true) ∧
    ((∃ tables, tables ≠ [] ∧ Dbml.parse text = .ok tables ∧
        ∀ table ∈ tables, table.faults = []) ∨
      Dbml.parse text = .error (.emptySchema "dsl" "")) := by
  refine ⟨?_, ?_, ?_⟩
  · rw [Ddl.parse_dialectName, ← Ddl.exists_scriptTables_iff]
    constructor
    · rintro ⟨tables, hread, -⟩
      exact ⟨tables, hread⟩
    · rintro ⟨tables, hread⟩
      exact ⟨tables, hread, Ddl.faults_of_scriptTables hread⟩
  · rw [← Models.exists_parse_iff]
    constructor
    · rintro ⟨tables, hread, -⟩
      exact ⟨tables, hread⟩
    · rintro ⟨tables, hread⟩
      exact ⟨tables, hread, Models.faults_of_parse hread⟩
  · cases hread : (Dbml.read text).tables with
    | nil =>
        right
        rw [Dbml.parse, hread]
    | cons table tables =>
        left
        have hparse : Dbml.parse text = .ok (table :: tables) := by
          rw [Dbml.parse, hread]
        exact ⟨_, List.cons_ne_nil table tables, hparse, Dbml.faults_of_parse hparse⟩

/-- A reference that breaks off behind a schema, and a list of nothing. -/
theorem unreadable_posts :
    (¬ ∃ tables, Ddl.parse "CREATE TABLE posts (author INT REFERENCES public.)" (some "postgres")
      = .ok tables) ∧
    Models.parse "type Post struct \x7b\n\tID int\n\tTags []\n\x7d\n" .sqlite "gorm"
      = .error .namelessRelation := by
  have hrefused : Ddl.parse "CREATE TABLE posts (author INT REFERENCES public.)" (some "postgres")
      = .error (.invalid "TableInfo" [⟨[.field "columns", .index 0], .violated
        ("Column 'author': is_foreign_key requires foreign_table " ++
          "(and foreign_table requires is_foreign_key)")⟩]) := by decide +kernel
  refine ⟨?_, by decide +kernel⟩
  rintro ⟨tables, h⟩
  rw [hrefused] at h
  cases h

end RelSchema
