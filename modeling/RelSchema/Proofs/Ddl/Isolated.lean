import RelSchema.Proofs.Ddl.RoundTrip
import RelSchema.Proofs.Sql.Boundary

/-!
# Statements are read apart from each other

What a script describes does not depend on what stands in front of it or behind it, as long as a
semicolon is between them and the front leaves nothing open. So the statements that are passed over
have no effect on the others.
-/

namespace RelSchema.Ddl

open Sql (IsClosed)

theorem scriptTables_append (dialect : Dialect) {a : String} (ha : IsClosed a.toList) (b : String) :
    scriptTables dialect (a ++ ";" ++ b) = (do
      let front ← scriptTables dialect a
      let back ← scriptTables dialect b
      return front ++ back) := by
  have htoList : (a ++ ";" ++ b).toList = a.toList ++ ';' :: b.toList := by simp
  unfold scriptTables
  rw [htoList, ha.statements_append, List.filterMap_append, List.mapM_append]

/-- Two scripts with a semicolon between them describe the tables of the first one and then those of
the second, if the first one leaves no quote, comment or parenthesis open; they fail as the first of
the two that fails. A script without tables between them changes nothing. -/
theorem parse_append_semicolon (dialect : Dialect) {a : String} (ha : IsClosed a.toList)
    (b : String) :
    parse (a ++ ";" ++ b) (some dialect.name) = (do
      let front ← parse a (some dialect.name)
      let back ← parse b (some dialect.name)
      return front ++ back) ∧
    ∀ skipped : String, IsClosed skipped.toList → parse skipped (some dialect.name) = .ok [] →
      parse (a ++ ";" ++ skipped ++ ";" ++ b) (some dialect.name)
        = parse (a ++ ";" ++ b) (some dialect.name) := by
  simp only [parse_dialectName]
  refine ⟨scriptTables_append dialect ha b, ?_⟩
  intro skipped hskipped hnone
  have hsplit : a ++ ";" ++ skipped ++ ";" ++ b = a ++ ";" ++ (skipped ++ ";" ++ b) := by
    simp only [String.append_assoc]
  rw [hsplit, scriptTables_append dialect ha, scriptTables_append dialect hskipped, hnone,
    scriptTables_append dialect ha]
  cases scriptTables dialect a with
  | error failure => rfl
  | ok front =>
      cases scriptTables dialect b with
      | error failure => rfl
      | ok back => rfl

/-- A table behind a comment with a semicolon, and a stray parenthesis behind it. -/
def usersScript : String := "/* ; */ CREATE TABLE users (id INT, name TEXT DEFAULT 'a;b')) -- (\n"

def insertScript : String := " INSERT INTO users VALUES (1, 'it''s; CREATE TABLE t (x INT)')"

/-- A table, and behind it a literal that is never closed. -/
def postsScript : String := " CREATE TABLE posts (id INT); SELECT ');"

theorem parse_append_semicolon_users :
    IsClosed usersScript.toList ∧ IsClosed insertScript.toList ∧
      parse insertScript (some "mysql") = .ok [] ∧
      parse (usersScript ++ ";" ++ postsScript) (some "mysql") = (do
        let front ← parse usersScript (some "mysql")
        let back ← parse postsScript (some "mysql")
        return front ++ back) ∧
      parse (usersScript ++ ";" ++ insertScript ++ ";" ++ postsScript) (some "mysql")
        = parse (usersScript ++ ";" ++ postsScript) (some "mysql") := by
  have husers : IsClosed usersScript.toList := by decide +kernel
  have hinsert : IsClosed insertScript.toList := by decide +kernel
  have hnone : parse insertScript (some "mysql") = .ok [] := by decide +kernel
  obtain ⟨happend, hskip⟩ := parse_append_semicolon .mysql husers postsScript
  exact ⟨husers, hinsert, hnone, happend, hskip insertScript hinsert hnone⟩

example : (parse (usersScript ++ ";" ++ insertScript ++ ";" ++ postsScript) (some "mysql")).toOption.map
    (List.map Table.columnNames) = some [["id", "name"], ["id"]] := by decide +kernel

end RelSchema.Ddl
