import RelSchema.Proofs.Ddl.Masked
import RelSchema.Proofs.Ddl.RoundTrip

/-!
# Literals are no syntax

Whatever a string literal says, in a default, a type, a check, a statement of another kind: the
tables of a script stay the same up to the texts of types and defaults. Scripts that differ in one
literal are alike when their comments are gone, alike scripts are cut into alike statements, and
alike statements create the same tables up to texts.
-/

namespace RelSchema

open Sql (Token)
open Text (openQuote)

theorem memberFaults_map {α β : Type} (problem? : β → Option Problem) (f : α → β) (start : Nat)
    (members : List α) :
    memberFaults problem? start (members.map f)
      = memberFaults (fun member => problem? (f member)) start members := by
  induction members generalizing start with
  | nil => rfl
  | cons member members ih => rw [List.map_cons, memberFaults, memberFaults, ih]

/-- A table and its copy without texts keep the same rules. -/
theorem checked_withoutTexts (table : Table) :
    table.withoutTexts.checked = table.checked.map Table.withoutTexts := by
  have hfaults : table.withoutTexts.faults = table.faults := by
    unfold Table.faults Table.withoutTexts
    rw [memberFaults_map]
    rfl
  unfold Table.checked
  rw [hfaults]
  split_ifs <;> rfl

namespace Ddl

theorem assemble_withoutTexts (name : String) (definitions : List Definition) :
    assemble name (definitions.map Definition.withoutTexts)
      = (assemble name definitions).map Table.withoutTexts := by
  have hnames : (definitions.map Definition.withoutTexts).flatMap Definition.keyNames
      = definitions.flatMap Definition.keyNames := by
    rw [List.flatMap_map]
    congr 1
    funext definition
    cases definition <;> rfl
  have hforeign : (definitions.map Definition.withoutTexts).flatMap Definition.foreign
      = definitions.flatMap Definition.foreign := by
    rw [List.flatMap_map]
    congr 1
    funext definition
    cases definition <;> rfl
  have hcolumns : (definitions.map Definition.withoutTexts).filterMap Definition.column?
      = (definitions.filterMap Definition.column?).map Column.withoutTexts := by
    rw [List.filterMap_map, List.map_filterMap]
    congr 1
    funext definition
    cases definition <;> rfl
  unfold assemble
  dsimp only
  rw [hnames, hforeign, hcolumns, declareKey_withoutTexts, foldl_applyForeignKey_withoutTexts,
    primaryKeyOrder_map Column.withoutTexts_name Column.withoutTexts_isPrimaryKey,
    ← checked_withoutTexts]
  rfl

theorem map_withoutTexts_readDefinition (dialect : Dialect) {texts others : List (List Char)}
    (h : List.Forall₂ (Sql.Alike none) texts others) :
    (texts.map (readDefinition dialect)).map Definition.withoutTexts
      = (others.map (readDefinition dialect)).map Definition.withoutTexts := by
  induction h with
  | nil => rfl
  | cons htext hrest ih =>
      rw [List.map_cons, List.map_cons, List.map_cons, List.map_cons,
        withoutTexts_readDefinition dialect htext, ih]

section Statement

variable {s t : List Char}

theorem readTable?_alike (dialect : Dialect) {found others : List Token}
    (h : List.Forall₂ (Token.Alike s t) found others) :
    (readTable? dialect s found).map (Except.map Table.withoutTexts)
      = (readTable? dialect t others).map (Except.map Table.withoutTexts) := by
  cases h with
  | nil => rfl
  | @cons head other _ _ hhead hrest =>
      have hbody := hhead.behind.inside
      have hempty := hbody.trim.isEmpty_eq
      have hisName : other.isName = head.isName := by
        rw [Token.isName, ← hhead.kind]
        rfl
      unfold readTable?
      dsimp only
      rw [hempty, hisName]
      by_cases hname : head.isName = true
      · have hkind := kind_ne_string_of_isName hname
        have hobject : objectName other = objectName head := by
          rw [objectName, objectName, ← hhead.kind, ← hhead.value hkind]
        have hassemble := congrArg (assemble (objectName head))
          (map_withoutTexts_readDefinition dialect (hbody.splitTopLevel ','))
        rw [assemble_withoutTexts, assemble_withoutTexts] at hassemble
        rw [hobject]
        split_ifs
        · exact congrArg some hassemble
        · rfl
      · rw [Bool.eq_false_iff.mpr hname]
        rfl

/-- Alike statements create the same table up to texts, fail alike, or are both passed over. -/
theorem statementTable?_alike (dialect : Dialect) (h : Sql.Alike none s t) :
    (statementTable? dialect s).map (Except.map Table.withoutTexts)
      = (statementTable? dialect t).map (Except.map Table.withoutTexts) := by
  have htokens := alike_tokens dialect h
  have hstarts : ∀ n words, startsWith words ((tokens dialect s).drop n)
      = startsWith words ((tokens dialect t).drop n) := by
    intro n words
    have hmasked := map_masked_eq (List.forall₂_drop n htokens)
    rw [← startsWith_map keeps_masked, hmasked, startsWith_map keeps_masked]
  have hcreate := hstarts 0 ["CREATE", "TABLE"]
  have hexists := hstarts 2 ["IF", "NOT", "EXISTS"]
  rw [List.drop_zero, List.drop_zero] at hcreate
  unfold statementTable?
  dsimp only
  rw [hcreate, hexists]
  split_ifs
  · apply readTable?_alike
    exact List.forall₂_drop 3 (List.forall₂_drop 2 htokens)
  · apply readTable?_alike
    exact List.forall₂_drop 2 htokens
  · rfl

theorem filterMap_statementTable?_alike (dialect : Dialect) {statements others : List (List Char)}
    (h : List.Forall₂ (Sql.Alike none) statements others) :
    (statements.filterMap (statementTable? dialect)).map (Except.map Table.withoutTexts)
      = (others.filterMap (statementTable? dialect)).map (Except.map Table.withoutTexts) := by
  rw [List.map_filterMap, List.map_filterMap]
  induction h with
  | nil => rfl
  | cons hstatement hrest ih =>
      rw [List.filterMap_cons, List.filterMap_cons, statementTable?_alike dialect hstatement, ih]

theorem tablesIn_alike (dialect : Dialect) (h : Sql.Alike none s t) :
    (tablesIn dialect s).map (List.map Table.withoutTexts)
      = (tablesIn dialect t).map (List.map Table.withoutTexts) := by
  have hstatements : List.Forall₂ (Sql.Alike none) (Sql.statements s) (Sql.statements t) :=
    h.splitTopLevel ';'
  unfold tablesIn
  rw [map_mapM_id, map_mapM_id, filterMap_statementTable?_alike dialect hstatements]

end Statement

theorem stripComments_literal {before : List Char}
    (hcode : Sql.commentStyle.placeAfter .code before = .code) (v after : List Char) :
    Sql.stripComments (before ++ (Naming.enclosed '\'' v ++ after))
      = Sql.stripComments before ++ (Naming.enclosed '\'' v ++ Sql.stripComments after) := by
  have hquote : Sql.isQuote '\'' = true := by decide
  have hliteral : Sql.SelfContained ';' (Naming.enclosed '\'' v) := .enclosed hquote v
  have hseam : ∀ c ∈ before.getLast?, ∀ d ∈ (Naming.enclosed '\'' v ++ after).head?,
      Sql.commentStyle.isMark c d = false := by
    rintro c - d hd
    cases hd
    exact Sql.isMark_of_isQuote_right hquote
  have hlast : ∀ c ∈ (Naming.enclosed '\'' v).getLast?, c ≠ '-' ∧ c ≠ '/' := by
    intro c hc
    rw [Naming.enclosed, List.getLast?_append] at hc
    cases hc
    decide
  calc Sql.stripComments (before ++ (Naming.enclosed '\'' v ++ after))
      = Sql.stripComments before ++ Sql.stripComments (Naming.enclosed '\'' v ++ after) :=
        Sql.commentStyle.stripFrom_append_of_code hcode hseam
    _ = Sql.stripComments before ++ (Naming.enclosed '\'' v ++ Sql.stripComments after) := by
        rw [Sql.stripComments_append hliteral.unmarked hliteral.balanced.openQuote_eq hlast]

/-- Scripts that differ in one literal are alike without their comments. -/
theorem alike_stripComments {before : List Char}
    (hcode : Sql.commentStyle.placeAfter .code before = .code) (v w after : List Char) :
    Sql.Alike none (Sql.stripComments (before ++ (Naming.enclosed '\'' v ++ after)))
      (Sql.stripComments (before ++ (Naming.enclosed '\'' w ++ after))) := by
  have hclosed := Sql.keepsGaps_commentStyle.openQuote_stripFrom .code before
  rw [hcode] at hclosed
  have hclosed' : openQuote Sql.quotes none (Sql.stripComments before) = none := hclosed
  rw [stripComments_literal hcode, stripComments_literal hcode]
  apply Sql.Alike.append
  rw [hclosed']
  exact .literal v w (.refl none _)

/-- The script with a string literal of the given value between two texts. -/
def withLiteral (before after value : String) : String :=
  before ++ .ofList (Naming.enclosed '\'' value.toList) ++ after

/-- A script in a named dialect describes the same tables, up to the texts of types and defaults,
whatever one of its literals says; or its reading fails for the same reason. The literal may even
stand next to another one, to which it is then joined. -/
theorem parse_withLiteral {dialect before : String} (hdialect : dialect ≠ "")
    (hcode : Sql.commentStyle.placeAfter .code before.toList = .code) (after v w : String) :
    (parse (withLiteral before after v) (some dialect)).map (List.map Table.withoutTexts)
      = (parse (withLiteral before after w) (some dialect)).map (List.map Table.withoutTexts) := by
  have hparse : ∀ script, parse script (some dialect)
      = Dialect.ofName (some dialect) >>= fun dialect => scriptTables dialect script := by
    intro script
    unfold parse dialectFor Dialect.ofOptionalName
    split
    · next h => cases h
    · next h => exact absurd (Option.some.inj h) hdialect
    · next name _ h =>
      obtain rfl := Option.some.inj h
      cases Dialect.ofName (some dialect) <;> rfl
  rw [hparse, hparse]
  cases Dialect.ofName (some dialect) with
  | error failure => rfl
  | ok dialect =>
      have htoList : ∀ value, (withLiteral before after value).toList
          = before.toList ++ (Naming.enclosed '\'' value.toList ++ after.toList) := by
        intro value
        simp [withLiteral]
      have halike := alike_stripComments hcode v.toList w.toList after.toList
      rw [← htoList, ← htoList] at halike
      exact tablesIn_alike dialect halike

/-- A script in front of a default, and behind it. -/
def notesBefore : String := "CREATE TABLE notes (id INT PRIMARY KEY, body TEXT DEFAULT "

def notesAfter : String :=
  " NOT NULL, author INT REFERENCES people(id)); CREATE TABLE people (id SERIAL)"

theorem parse_withLiteral_notes :
    "postgres" ≠ "" ∧ Sql.commentStyle.placeAfter .code notesBefore.toList = .code ∧
      (parse (withLiteral notesBefore notesAfter "none") (some "postgres")).map
          (List.map Table.withoutTexts)
        = (parse (withLiteral notesBefore notesAfter "it's), (x INT); /* NOT NULL --")
          (some "postgres")).map (List.map Table.withoutTexts) := by
  have hdialect : "postgres" ≠ "" := by decide
  have hcode : Sql.commentStyle.placeAfter .code notesBefore.toList = .code := by decide +kernel
  exact ⟨hdialect, hcode, parse_withLiteral hdialect hcode notesAfter _ _⟩

example : (parse (withLiteral notesBefore notesAfter "it's), (x INT); /* NOT NULL --")
    (some "postgres")).toOption.map (List.map Table.columnNames)
      = some [["id", "body", "author"], ["id"]] := by decide +kernel

end Ddl

end RelSchema
