import RelSchema.Ddl.Script
import RelSchema.Proofs.Dbml.Reader
import RelSchema.Proofs.Models.Source

/-!
# Produced tables

Tables come from scripts, from markup and from structures, and merging such tables gives further
ones. In all of them a column is marked as foreign exactly if it names a table.
-/

namespace RelSchema

theorem Ddl.consistent_of_parse {script : String} {dialect : Option String} {tables : List Table}
    (h : parse script dialect = .ok tables) : ∀ table ∈ tables, table.Consistent := by
  intro table htable
  unfold parse at h
  obtain ⟨resolved, -, h⟩ := bind_eq_ok_iff.mp h
  obtain ⟨attempt, hattempt, hok⟩ := exists_of_mem_mapM h htable
  obtain ⟨statement, -, hstatement⟩ := List.mem_filterMap.mp hattempt
  obtain rfl : attempt = .ok table := hok
  suffices hread : ∀ tokens, readTable? resolved statement tokens = some (.ok table) →
      table.Consistent by
    unfold statementTable? at hstatement
    dsimp only at hstatement
    split_ifs at hstatement
    · exact hread _ hstatement
    · exact hread _ hstatement
  intro tokens htokens
  cases tokens with
  | nil => cases htokens
  | cons head rest =>
      unfold readTable? at htokens
      dsimp only at htokens
      split_ifs at htokens
      exact Table.consistent_of_checked (Option.some.inj htokens)

/-- The tables that texts describe, and the merges of such tables. -/
inductive Produced : Table → Prop
  | script {script : String} {dialect : Option String} {tables : List Table} {table : Table}
      (h : Ddl.parse script dialect = .ok tables) (hmem : table ∈ tables) : Produced table
  | markup {text : String} {tables : List Table} {table : Table} (h : Dbml.parse text = .ok tables)
      (hmem : table ∈ tables) : Produced table
  | source {source tag : String} {dialect : Dialect} {tables : List Table} {table : Table}
      (h : Models.parse source dialect tag = .ok tables) (hmem : table ∈ tables) : Produced table
  | merge (policy : MergePolicy) {model catalog : Table} (hmodel : Produced model)
      (hcatalog : Produced catalog) : Produced (Table.merge policy model catalog)
  | mergeAll (policy : MergePolicy) {models catalog : List Table} {table : Table}
      (hmodels : ∀ model ∈ models, Produced model) (hcatalog : ∀ known ∈ catalog, Produced known)
      (hmem : table ∈ Table.mergeAll policy models catalog) : Produced table

namespace Produced

theorem consistent {table : Table} (h : Produced table) : table.Consistent := by
  induction h with
  | script h hmem => exact Ddl.consistent_of_parse h _ hmem
  | markup h hmem => exact Dbml.consistent_of_parse h _ hmem
  | source h hmem => exact Models.consistent_of_parse h _ hmem
  | merge policy hmodel hcatalog ihModel ihCatalog => exact ihModel.merge policy ihCatalog
  | mergeAll policy hmodels hcatalog hmem ihModels ihCatalog =>
      exact Table.consistent_mergeAll policy ihModels ihCatalog _ hmem

/-- A column of a produced table is marked as foreign exactly if it names a table. -/
theorem isForeignKey_iff {table : Table} (h : Produced table) {column : Column}
    (hcolumn : column ∈ table.columns) :
    column.isForeignKey = true ↔ ∃ target, column.foreignTable = some target ∧ target ≠ "" :=
  Column.consistent_iff.mp (h.consistent column hcolumn)

/-- A table described in markup, one column of which a reference behind it marks. -/
def draftPosts : Table where
  name := "posts"
  columns := [
    { name := "id", type := "int", isPrimaryKey := true, isNullable := false },
    { name := "editor_id", type := "int", isForeignKey := true, foreignTable := some "users",
      foreignKey := some "id" }]
  primaryKeys := ["id"]

/-- The table as a script creates it, with a reference of its own. -/
def createdPosts : Table where
  name := "posts"
  columns := [
    { name := "id", type := "INT", isPrimaryKey := true, isNullable := false },
    { name := "author_id", type := "INT", isForeignKey := true, foreignTable := some "users",
      foreignKey := some "id" }]
  primaryKeys := ["id"]

theorem mergedPosts : Produced (Table.merge .union draftPosts createdPosts) := by
  have hdraft : Dbml.parse ("Table posts \x7b\n  id int [pk]\n  editor_id int\n\x7d\n" ++
      "Ref: posts.editor_id > users.id") = .ok [draftPosts] := by decide +kernel
  have hcreated : Ddl.parse
      "CREATE TABLE posts (id INT PRIMARY KEY, author_id INT REFERENCES public.users (id))"
      (some "postgres") = .ok [createdPosts] := by decide +kernel
  exact .merge .union (.markup hdraft List.mem_cons_self) (.script hcreated List.mem_cons_self)

theorem isForeignKey_iff_mergedPosts :
    Produced (Table.merge .union draftPosts createdPosts) ∧
      ∀ column ∈ (Table.merge .union draftPosts createdPosts).columns,
        (column.isForeignKey = true ↔
          ∃ target, column.foreignTable = some target ∧ target ≠ "") :=
  ⟨mergedPosts, fun _ hcolumn => mergedPosts.isForeignKey_iff hcolumn⟩

end Produced

end RelSchema
