import RelSchema.Proofs.Ddl.Clause
import RelSchema.Proofs.Failure
import RelSchema.Proofs.Sql.Contained

/-!
# Statements that create a table

A statement creates the table that its head names, from the definitions inside its first pair of
parentheses. A script whose first statement is self-contained has the table of this statement in
front of those of the rest.
-/

namespace RelSchema.Ddl

open Sql (Token Balanced SelfContained isWordPart)
open Sql.Pending (wordToken runToken)

theorem closeFrom_add (brackets : Sql.Brackets) (n : Nat) (quote? : Option Char)
    (depth position : Nat) (text : List Char) :
    brackets.closeFrom quote? depth (position + n) text
      = (brackets.closeFrom quote? depth position text).map (· + n) := by
  induction text generalizing quote? depth position with
  | nil => rfl
  | cons c text ih =>
      simp only [Sql.Brackets.closeFrom, Nat.add_right_comm position n 1, ih]
      split_ifs
      · rfl
      · rfl
      · cases depth <;> rfl
      · rfl

/-- The text up to the parenthesis that closes an open one, empty if none does. -/
def bodyOf (text : List Char) : List Char :=
  match Sql.Brackets.closeFrom {} none 0 0 text with
  | none => []
  | some close => text.take close

theorem inside_space_opening (text : List Char) :
    Sql.Brackets.inside {} (' ' :: '(' :: text) = bodyOf text := by
  have hfind : Sql.Brackets.find? {} (' ' :: '(' :: text)
      = (Sql.Brackets.closeFrom {} none 0 2 text).map fun close => (1, close) := rfl
  rw [Sql.Brackets.inside, hfind, closeFrom_add {} 2 none 0 0, bodyOf]
  cases Sql.Brackets.closeFrom {} none 0 0 text with
  | none => rfl
  | some close => rfl

theorem bodyOf_of_balanced {body : List Char} (hbody : Balanced body) (rest : List Char) :
    bodyOf (body ++ ')' :: rest) = body := by
  rw [bodyOf, Sql.Brackets.closeFrom_closing hbody, Nat.zero_add]
  exact List.take_left

def headWords : List Char := "CREATE TABLE ".toList

theorem headWords_eq : headWords = "CREATE".toList ++ ' ' :: ("TABLE".toList ++ [' ']) := by
  decide

def headText (dialect : Dialect) (name : List Char) : List Char :=
  headWords ++ Naming.enclosed dialect.quoteChar name ++ [' ', '(']

theorem tokensAt_headText (dialect : Dialect) (name rest : List Char) :
    tokens dialect (headText dialect name ++ rest)
      = wordToken 0 "CREATE".toList.reverse 6 :: wordToken 7 "TABLE".toList.reverse 12
        :: runToken dialect.quoteChar 13 name.reverse
            (13 + (Naming.enclosed dialect.quoteChar name).length)
        :: tokensAt dialect (13 + (Naming.enclosed dialect.quoteChar name).length)
            (' ' :: '(' :: rest) := by
  have hsplit : headText dialect name ++ rest
      = "CREATE".toList ++ ' ' :: ("TABLE".toList ++ ' ' ::
          (Naming.enclosed dialect.quoteChar name ++ ' ' :: '(' :: rest)) := by
    simp only [headText, headWords_eq, List.append_assoc, List.cons_append, List.nil_append]
  have hspace : ∀ s : List Char, ∀ c ∈ (' ' :: s).head?, isWordPart c = false := by
    intro s c hc
    cases hc
    decide
  rw [tokens_eq_tokensAt, hsplit, tokensAt_word dialect _ (by decide) (by decide) (hspace _),
    tokensAt_space, tokensAt_word dialect _ (by decide) (by decide) (hspace _), tokensAt_space,
    tokensAt_name]
  · rfl
  · intro c hc
    cases hc
    cases dialect <;> decide

/-- A statement with the head of a table creates the table with the definitions of its body, unless
the body is blank. -/
theorem statementTable?_headText (dialect : Dialect) {name : List Char} (hname : name ≠ [])
    (rest : List Char) :
    statementTable? dialect (headText dialect name ++ rest)
      = if (Text.trim (bodyOf rest)).isEmpty then none
        else some (assemble (.ofList name)
          ((Sql.definitions (bodyOf rest)).map (readDefinition dialect))) := by
  have htokens := tokensAt_headText dialect name rest
  set nameToken := runToken dialect.quoteChar 13 name.reverse
    (13 + (Naming.enclosed dialect.quoteChar name).length) with hnameToken
  set more := tokensAt dialect (13 + (Naming.enclosed dialect.quoteChar name).length)
    (' ' :: '(' :: rest)
  have hkind : nameToken.kind = .quotedName := kind_runToken_quoteChar dialect _ _ _
  have hobject : objectName nameToken = .ofList name := by
    rw [objectName, hkind, hnameToken, runToken, List.reverse_reverse]
    rfl
  have hguard : startsWith ["IF", "NOT", "EXISTS"] (nameToken :: more) = false := by
    rw [startsWith, isKeyword_of_kind_ne (by rw [hkind]; decide)]
    rfl
  have hcreate : startsWith ["CREATE", "TABLE"]
      (wordToken 0 "CREATE".toList.reverse 6 :: wordToken 7 "TABLE".toList.reverse 12
        :: nameToken :: more) = true := by
    rw [startsWith, startsWith, isKeyword_wordToken, isKeyword_wordToken, startsWith]
    decide
  have hdrop : (headText dialect name ++ rest).drop nameToken.stop = ' ' :: '(' :: rest := by
    have hsplit : headText dialect name ++ rest
        = (headWords ++ Naming.enclosed dialect.quoteChar name)
            ++ ' ' :: '(' :: rest := by
      simp only [headText, List.append_assoc, List.cons_append, List.nil_append]
    have hlength : nameToken.stop
        = (headWords ++ Naming.enclosed dialect.quoteChar name).length := by
      rw [List.length_append]
      rfl
    rw [hsplit, hlength, List.drop_left]
  have hnamed : (nameToken.isName && String.ofList name != "") = true := by
    simpa [Token.isName, hkind] using hname
  rw [statementTable?, htokens, if_pos hcreate, List.drop_succ_cons, List.drop_succ_cons,
    List.drop_zero]
  simp only [hguard, if_neg Bool.false_ne_true, readTable?, hobject, hdrop, inside_space_opening,
    hnamed, Bool.true_and]
  cases (Text.trim (bodyOf rest)).isEmpty <;> rfl

theorem selfContained_headText (dialect : Dialect) (name : List Char) :
    SelfContained ';' (headWords ++ Naming.enclosed dialect.quoteChar name ++ [' ']) := by
  have hhead : SelfContained ';' headWords := by decide
  have hname : SelfContained ';' (Naming.enclosed dialect.quoteChar name) :=
    SelfContained.enclosed (isQuote_quoteChar dialect) name
  refine (hhead.append hname ?_).append (b := [' ']) (by decide) ?_
  · intro c hc d hd
    cases hd
    exact Sql.isMark_of_isQuote_right (isQuote_quoteChar dialect)
  · intro c _ d hd
    cases hd
    exact Sql.isMark_of_right (by decide) (by decide)

/-- A statement is self-contained if its body leaves nothing open and has no comment. -/
theorem selfContained_statement (dialect : Dialect) (name : List Char) {body : List Char}
    (hbody : Balanced body) (hunmarked : Sql.Unmarked body) :
    SelfContained ';' (headText dialect name ++ body ++ [')']) := by
  have hsplit : headText dialect name ++ body ++ [')']
      = (headWords ++ Naming.enclosed dialect.quoteChar name ++ [' '])
          ++ ('(' :: body ++ [')']) := by
    simp only [headText, List.append_assoc, List.cons_append, List.nil_append]
  rw [hsplit]
  refine (selfContained_headText dialect name).append (.parenthesized ';' hbody hunmarked) ?_
  intro c _ d hd
  cases hd
  exact Sql.isMark_of_right (by decide) (by decide)

def tablesIn (dialect : Dialect) (script : List Char) : Except Failure (List Table) :=
  ((Sql.statements script).filterMap (statementTable? dialect)).mapM id

theorem scriptTables_eq (dialect : Dialect) (script : String) :
    scriptTables dialect script = tablesIn dialect (Sql.stripComments script.toList) := rfl

theorem tablesIn_of_statements {dialect : Dialect} {script statement rest : List Char}
    {table : Except Failure Table} (hstatements : Sql.statements script
      = statement :: Sql.statements rest) (htable : statementTable? dialect statement = some table) :
    tablesIn dialect script = do
      let first ← table
      let others ← tablesIn dialect rest
      return first :: others := by
  rw [tablesIn, hstatements, List.filterMap_cons_some htable, List.mapM_cons]
  rfl

theorem tablesIn_gap (dialect : Dialect) {gap : List Char}
    (hgap : ∀ c ∈ gap, Text.isBlank c = true) (rest : List Char) :
    tablesIn dialect (gap ++ rest) = tablesIn dialect rest := by
  rw [tablesIn, tablesIn, Sql.statements, Sql.splitTopLevel_gap Sql.isSeparating_semicolon hgap]
  rfl

theorem trimmed_statement (dialect : Dialect) (name body : List Char) :
    Sql.Trimmed (headText dialect name ++ body ++ [')']) := by
  refine ⟨by simp, ?_, ?_⟩
  · intro c hc
    cases hc
    decide
  · intro c hc
    rw [List.getLast?_append] at hc
    cases hc
    decide

/-- A self-contained statement stands for itself in front of the rest of a script. -/
theorem statements_semicolon {statement : List Char} (hcontained : SelfContained ';' statement)
    (htrimmed : Sql.Trimmed statement) (rest : List Char) :
    Sql.statements (Sql.stripComments (statement ++ ';' :: rest))
      = statement :: Sql.statements (Sql.stripComments rest) := by
  have hclosed := hcontained.balanced.openQuote_eq
  have hstrip : Sql.stripComments (statement ++ ';' :: rest)
      = statement ++ ';' :: Sql.stripComments rest := by
    have hunmarked : Sql.Unmarked (statement ++ [';']) := by
      refine hcontained.unmarked.append (b := [';']) (by decide) hclosed ?_
      intro c _ d hd
      cases hd
      exact Sql.isMark_of_right (by decide) (by decide)
    have hopen : Text.openQuote Sql.quotes none (statement ++ [';']) = none := by
      rw [Text.openQuote_append, hclosed]
      decide
    have happend := Sql.stripComments_append hunmarked hopen (by
      intro c hc
      rw [List.getLast?_append] at hc
      cases hc
      decide) rest
    simpa using happend
  have hsplit := Sql.splitTopLevel_append Sql.isSeparating_semicolon (List.forall_mem_nil _)
    (List.forall_mem_nil _) hcontained.balanced hcontained.whole htrimmed (Sql.stripComments rest)
  rw [List.nil_append, List.append_nil] at hsplit
  rw [hstrip]
  exact hsplit

theorem statements_headText (dialect : Dialect) (name : List Char) {body : List Char}
    (hbody : Balanced body) (hunmarked : Sql.Unmarked body) (rest : List Char) :
    Sql.statements (Sql.stripComments (headText dialect name ++ body ++ [')'] ++ ';' :: rest))
      = (headText dialect name ++ body ++ [')']) :: Sql.statements (Sql.stripComments rest) :=
  statements_semicolon (selfContained_statement dialect name hbody hunmarked)
    (trimmed_statement dialect name body) rest

theorem statementTable?_statement (dialect : Dialect) {name body : List Char} (hname : name ≠ [])
    (hbody : Balanced body) :
    statementTable? dialect (headText dialect name ++ body ++ [')'])
      = if (Text.trim body).isEmpty then none
        else some (assemble (.ofList name)
          ((Sql.definitions body).map (readDefinition dialect))) := by
  rw [List.append_assoc, statementTable?_headText dialect hname, bodyOf_of_balanced hbody]

/-- A script that starts with the statement of a table, whose body is not blank, has this table in
front of those of its rest. -/
theorem tablesIn_statement (dialect : Dialect) {name body : List Char} (hname : name ≠ [])
    (hbody : Balanced body) (hunmarked : Sql.Unmarked body) (hblank : Text.trim body ≠ [])
    (rest : List Char) :
    tablesIn dialect (Sql.stripComments (headText dialect name ++ body ++ [')'] ++ ';' :: rest))
      = (do
        let first ← assemble (.ofList name)
          ((Sql.definitions body).map (readDefinition dialect))
        let others ← tablesIn dialect (Sql.stripComments rest)
        return first :: others) := by
  refine tablesIn_of_statements (statements_headText dialect name hbody hunmarked rest) ?_
  rw [statementTable?_statement dialect hname hbody, if_neg (by simpa using hblank)]

theorem tablesIn_blank_statement (dialect : Dialect) {name body : List Char} (hname : name ≠ [])
    (hbody : Balanced body) (hunmarked : Sql.Unmarked body) (hblank : Text.trim body = [])
    (rest : List Char) :
    tablesIn dialect (Sql.stripComments (headText dialect name ++ body ++ [')'] ++ ';' :: rest))
      = tablesIn dialect (Sql.stripComments rest) := by
  have hnone : statementTable? dialect (headText dialect name ++ body ++ [')']) = none := by
    rw [statementTable?_statement dialect hname hbody, hblank]
    rfl
  rw [tablesIn, statements_headText dialect name hbody hunmarked rest, List.filterMap_cons, hnone]
  rfl

end RelSchema.Ddl
