import RelSchema.Proofs.Ddl.Agreement
import RelSchema.Proofs.Sql.Comment

/-!
# Comments in scripts

A comment between two parts of a script is a space to all that reads statements. Only the dialect,
if it is not named, is detected from the whole text, comments included: a telltale word in a comment
points to a dialect as one in a statement does, and the tables of the script change with it if MySQL
reads other tables from it than the other dialects.
-/

namespace RelSchema.Ddl

open Sql (commentStyle)

/-- The words that point to a dialect. -/
def telltales : List String :=
  ["AUTOINCREMENT", "SERIAL", "::", "BYTEA", "AUTO_INCREMENT", "ENGINE="]

/-- Whether a word occurs in a text in some case. -/
def hasWord (text : List Char) (word : String) : Bool :=
  Text.occursIn word.toList (text.flatMap Text.upperChar)

/-- The dialect to which those telltale words point that are there. -/
def pointedDialect (has : String → Bool) : Dialect :=
  if has "AUTOINCREMENT" then .sqlite
  else if has "SERIAL" || has "::" || has "BYTEA" then .postgres
  else if has "AUTO_INCREMENT" || has "ENGINE=" then .mysql
  else .sqlite

theorem detectDialect_eq (script : String) :
    detectDialect script = pointedDialect (hasWord script.toList) := by
  rw [detectDialect, Text.upper, String.toList_ofList]
  rfl

theorem pointedDialect_congr {first second : String → Bool}
    (h : ∀ word ∈ telltales, first word = second word) :
    pointedDialect first = pointedDialect second := by
  simp only [telltales, List.forall_mem_cons] at h
  obtain ⟨hauto, hserial, hcast, hbytes, hincrement, hengine, -⟩ := h
  rw [pointedDialect, hauto, hserial, hcast, hbytes, hincrement, hengine, pointedDialect]

/-- A telltale word occurs on one side of a space or of a character of a mark. -/
theorem hasWord_append_cons {word : String} (hword : word ∈ telltales) {c : Char}
    (hc : c ∈ [' ', '/', '*']) (a b : List Char) :
    hasWord (a ++ c :: b) word = (hasWord a word || hasWord b word) := by
  have hupper : ∀ c ∈ [' ', '/', '*'], Text.upperChar c = [c] := by decide
  have hfree : ∀ word ∈ telltales, word.toList ≠ [] ∧ ∀ c ∈ [' ', '/', '*'], c ∉ word.toList := by
    decide
  obtain ⟨hne, hnot⟩ := hfree word hword
  rw [hasWord, List.flatMap_append, List.flatMap_cons, hupper c hc, List.singleton_append,
    Text.occursIn_append_cons hne (hnot c hc)]
  rfl

theorem hasWord_comment {word : String} (hword : word ∈ telltales)
    (before comment rest : List Char) :
    hasWord (before ++ '/' :: '*' :: (comment ++ '*' :: '/' :: rest)) word
      = (hasWord before word || hasWord comment word || hasWord rest word) := by
  have hempty : ∀ word ∈ telltales, hasWord [] word = false := by decide
  have hcons : ∀ c ∈ [' ', '/', '*'], ∀ s, hasWord (c :: s) word = hasWord s word := by
    intro c hc s
    have happend := hasWord_append_cons hword hc [] s
    rw [hempty word hword, Bool.false_or] at happend
    exact happend
  rw [hasWord_append_cons hword (by decide), hcons '*' (by decide),
    hasWord_append_cons hword (by decide), hcons '/' (by decide), Bool.or_assoc]

theorem tables_parseSnapshot (script : String) :
    (parseSnapshot script none).map Snapshot.tables
      = scriptTables (detectDialect script) script := by
  rw [parseSnapshot, dialectFor_none]
  simp only [bind, Except.bind]
  cases scriptTables (detectDialect script) script <;> rfl

theorem toList_comment (before comment rest : String) :
    (before ++ "/*" ++ comment ++ "*/" ++ rest).toList
      = before.toList ++ '/' :: '*' :: (comment.toList ++ '*' :: '/' :: rest.toList) := by
  simp

theorem toList_space (before rest : String) :
    (before ++ " " ++ rest).toList = before.toList ++ ' ' :: rest.toList := by
  simp

/-- A comment without a telltale word points to no dialect. -/
theorem detectDialect_comment {comment : String} (before rest : String)
    (hnone : ∀ word ∈ telltales, hasWord comment.toList word = false) :
    detectDialect (before ++ "/*" ++ comment ++ "*/" ++ rest)
      = detectDialect (before ++ " " ++ rest) := by
  rw [detectDialect_eq, detectDialect_eq, toList_comment, toList_space]
  refine pointedDialect_congr fun word hword => ?_
  rw [hasWord_comment hword, hnone word hword, Bool.or_false,
    hasWord_append_cons hword (by decide)]

section Comment

variable {before comment : String} (hbefore : commentStyle.placeAfter .code before.toList = .code)
  (hcomment : ¬ "*/".toList <:+: comment.toList) (rest : String)

include hbefore hcomment

theorem scriptTables_comment (dialect : Dialect) :
    scriptTables dialect (before ++ "/*" ++ comment ++ "*/" ++ rest)
      = scriptTables dialect (before ++ " " ++ rest) := by
  have hmark : ¬ ['*', '/'] <:+: comment.toList := hcomment
  rw [scriptTables, scriptTables, toList_comment, toList_space,
    Sql.stripComments_blockComment hbefore hmark]

/-- The tables of a script whose dialect is detected stay the same in spite of a comment exactly if
the comment does not decide between MySQL and the other dialects, or these read the same tables; a
comment without a telltale word never does. -/
theorem tables_comment_iff :
    ((parseSnapshot (before ++ "/*" ++ comment ++ "*/" ++ rest) none).map Snapshot.tables
        = (parseSnapshot (before ++ " " ++ rest) none).map Snapshot.tables ↔
      (detectDialect (before ++ "/*" ++ comment ++ "*/" ++ rest) = .mysql ↔
          detectDialect (before ++ " " ++ rest) = .mysql) ∨
        scriptTables .mysql (before ++ " " ++ rest)
          = scriptTables .sqlite (before ++ " " ++ rest)) ∧
      ((∀ word ∈ telltales, hasWord comment.toList word = false) →
        detectDialect (before ++ "/*" ++ comment ++ "*/" ++ rest)
          = detectDialect (before ++ " " ++ rest)) := by
  refine ⟨?_, detectDialect_comment before rest⟩
  rw [tables_parseSnapshot, tables_parseSnapshot, scriptTables_comment hbefore hcomment,
    scriptTables_eq_iff]

end Comment

/-- A comment with all that could end a statement, a quoted run or a comment of another kind. -/
theorem tables_comment_unclosed :
    (parseSnapshot ("CREATE TABLE " ++ "/*" ++ " it's; -- \"(\" :/ " ++ "*/" ++ "\"t\" (id INT)")
        none).map Snapshot.tables
      = (parseSnapshot ("CREATE TABLE " ++ " " ++ "\"t\" (id INT)") none).map Snapshot.tables := by
  have hcomment : ¬ "*/".toList <:+: " it's; -- \"(\" :/ ".toList := by
    rw [← Text.occursIn_iff]
    decide
  have hbefore : commentStyle.placeAfter .code "CREATE TABLE ".toList = .code := by decide
  have hiff := tables_comment_iff hbefore hcomment "\"t\" (id INT)"
  exact hiff.1.mpr (Or.inl (by rw [hiff.2 (by decide)]))

/-- An option of MySQL in a comment makes the table behind it disappear. -/
theorem tables_comment_increment :
    commentStyle.placeAfter .code "".toList = .code ∧
      (¬ "*/".toList <:+: "AUTO_INCREMENT".toList) ∧
      (parseSnapshot ("" ++ "/*" ++ "AUTO_INCREMENT" ++ "*/" ++ "CREATE TABLE \"t\" (id INT)")
          none).map Snapshot.tables
        ≠ (parseSnapshot ("" ++ " " ++ "CREATE TABLE \"t\" (id INT)") none).map
            Snapshot.tables := by
  have hcomment : ¬ "*/".toList <:+: "AUTO_INCREMENT".toList := by
    rw [← Text.occursIn_iff]
    decide
  refine ⟨by decide, hcomment, ?_⟩
  decide +kernel

end RelSchema.Ddl
