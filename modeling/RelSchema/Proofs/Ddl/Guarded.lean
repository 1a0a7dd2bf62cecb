import RelSchema.Proofs.Ddl.Assembled
import RelSchema.Proofs.Ddl.Guard
import RelSchema.Proofs.Ddl.Reference
import RelSchema.Proofs.Ddl.RoundTrip
import RelSchema.Proofs.Ddl.TableScript

/-!
# Guarded scripts

With `IF NOT EXISTS` in its heads, a rendered script gives the tables that it gives without, if none
of its texts holds the words of a head. A name, a default between quotes or a type with parentheses
that holds them is changed with the heads.
-/

namespace RelSchema.Ddl

open Sql (Token isWordPart)
open Sql.Pending (runToken)

theorem isBarrier_quoteChar (dialect : Dialect) : IsBarrier dialect.quoteChar :=
  isBarrier_of_isQuote (isQuote_quoteChar dialect)

theorem segment_enclosed {quote : Char} (hquote : IsBarrier quote) (s : List Char) {gap : List Char}
    (hgap : ∀ c ∈ gap, Text.isWordChar c = false) :
    Segment (Naming.enclosed quote s ++ gap) (Naming.enclosed quote (guarded s) ++ gap) := by
  have hsplit : ∀ s, Naming.enclosed quote s ++ gap
      = quote :: (Naming.doubled quote s ++ quote :: gap) := fun s => by
    simp [Naming.enclosed]
  rw [hsplit, hsplit, ← guarded_doubled hquote]
  exact .of_barriers hquote hquote _ hgap

theorem not_prefix_of_head? {c : Char} (hc : c ≠ 'T') {word : List Char}
    (hfirst : word.head? = some c) (rest : List Char) : ¬ "TABLE".toList <+: word ++ rest := by
  intro hprefix
  cases word with
  | nil => cases hfirst
  | cons d word =>
      cases hfirst
      exact hc (List.cons_prefix_cons.mp hprefix).1.symm

/-- No word of a phrase starts as the second word of a head does. -/
theorem not_prefix_of_upper {w : List Char} {word : String} (hupper : Text.upper (.ofList w) = word)
    (hword : word ∈ typeSuffixes.flatten) (rest : List Char) : ¬ "TABLE".toList <+: w ++ rest := by
  have htable : "TABLE".toList = ['T', 'A', 'B', 'L', 'E'] := by decide
  have hother : ∀ word ∈ typeSuffixes.flatten,
      word ≠ "" ∧ word ≠ "T" ∧ ¬ ['T', 'A'] <+: word.toList := by decide
  obtain ⟨hempty, hshort, hstart⟩ := hother word hword
  intro hprefix
  rw [htable] at hprefix
  cases w with
  | nil => exact hempty (by rw [← hupper]; decide)
  | cons c w =>
      obtain ⟨rfl, hrest⟩ := List.cons_prefix_cons.mp hprefix
      cases w with
      | nil => exact hshort (by rw [← hupper]; decide)
      | cons d w =>
          obtain ⟨rfl, -⟩ := List.cons_prefix_cons.mp hrest
          refine hstart ?_
          rw [← hupper, Text.upper, String.toList_ofList, String.toList_ofList]
          exact ⟨w.flatMap Text.upperChar, rfl⟩

theorem segment_phrase {words : List String} {text : List Char} (h : Phrase words text)
    (hwords : words ⊆ typeSuffixes.flatten) : Segment text text := by
  have hreserved : ∀ word ∈ typeSuffixes.flatten, ∀ c ∈ word.toList, ¬ Text.IsReserved c := by
    decide
  induction h with
  | nil => exact .nil
  | @cons word words w text hupper htext ih =>
      obtain ⟨hword, hwords⟩ := List.cons_subset.mp hwords
      have hspace : ' ' ∉ w := fun hmem =>
        Text.not_isReserved_of_upper hupper (hreserved word hword) ' ' hmem (by decide)
      exact (Segment.of_spaced hspace (not_prefix_of_upper hupper hword)).append (ih hwords)

/-- What follows the bare word of a plain type becomes something that may follow it. -/
theorem exists_segment_plainTail {tail : List Char} (h : PlainTail tail) :
    ∃ tail', Segment tail tail' ∧ PlainTail tail' := by
  have hclause : ∀ c ∈ " IF NOT EXISTS".toList, Sql.isQuote c = false ∧ c ≠ '(' ∧ c ≠ ')' := by
    decide
  induction h with
  | nil => exact ⟨[], .nil, .nil⟩
  | @phrase words text tail hwords htext htail ih =>
      obtain ⟨tail', hsegment, hplain⟩ := ih
      have hall : words ⊆ typeSuffixes.flatten := fun word hword =>
        List.mem_flatten_of_mem hwords hword
      exact ⟨text ++ tail', (segment_phrase htext hall).append hsegment,
        .phrase hwords htext hplain⟩
  | @group inner tail hinner hline hblock htail ih =>
      obtain ⟨tail', hsegment, hplain⟩ := ih
      have hgroup : Segment ('(' :: (inner ++ [')'])) ('(' :: (guarded inner ++ [')'])) :=
        .of_barriers (by decide) (by decide) inner (List.forall_mem_nil _)
      refine ⟨'(' :: guarded inner ++ ')' :: tail', by simpa using hgroup.append hsegment, ?_⟩
      refine .group (fun c hc => ?_) (fun hpair => hline ?_) (fun hpair => hblock ?_) hplain
      · exact (mem_guardFrom hc).elim (hclause c) (hinner c)
      · exact infix_of_infix_guardFrom (by decide) (by decide) hpair
      · exact infix_of_infix_guardFrom (by decide) (by decide) hpair

theorem exists_segment_plainType {word tail : List Char} (h : PlainType word tail) :
    ∃ tail', Segment (word ++ tail) (word ++ tail') ∧ PlainType word tail' := by
  obtain ⟨tail', hsegment, hplain⟩ := exists_segment_plainTail h.tail
  have hspace : ' ' ∉ word := fun hmem => absurd (h.code ' ' hmem).1 (by decide)
  exact ⟨tail', (Segment.of_word hspace).append hsegment, { h with tail := hplain }⟩

theorem segment_mark (mark : Nullability) : Segment mark.text.toList mark.text.toList := by
  have hword : ∀ (c : Char) {word : List Char}, c ≠ 'T' → ' ' ∉ word → word.head? = some c →
      Segment (' ' :: word) (' ' :: word) := fun _ _ hc hspace hfirst =>
    .of_spaced hspace (not_prefix_of_head? hc hfirst)
  cases mark with
  | primaryKey =>
      have hsplit : Nullability.primaryKey.text.toList
          = ' ' :: "PRIMARY".toList ++ ' ' :: "KEY".toList := by decide
      rw [hsplit]
      exact (hword 'P' (by decide) (by decide) (by decide)).append
        (hword 'K' (by decide) (by decide) (by decide))
  | notNull =>
      have hsplit : Nullability.notNull.text.toList
          = ' ' :: "NOT".toList ++ ' ' :: "NULL".toList := by decide
      rw [hsplit]
      exact (hword 'N' (by decide) (by decide) (by decide)).append
        (hword 'N' (by decide) (by decide) (by decide))
  | nullable => exact .nil

theorem plainDefault_ifNotExists {value : String} (h : PlainDefault value) :
    PlainDefault (ifNotExists value) := by
  obtain ⟨hquote, hparen, hbreak⟩ := h
  have hlast : ∀ c : Char, c ≠ 'S' → value.toList.getLast? ≠ some c →
      (guarded value.toList).getLast? ≠ some c := by
    intro c hc hne
    rcases getLast?_guardFrom [] value.toList with hsame | hclause
    · rwa [guarded, hsame]
    · rw [guarded, hclause]
      exact fun heq => hc (Option.some.inj heq).symm
  unfold PlainDefault
  rw [toList_ifNotExists]
  refine ⟨?_, hlast ')' (by decide) hparen, hlast '\n' (by decide) hbreak⟩
  rcases head?_guardFrom [] value.toList with hsame | hclause
  · rwa [guarded, hsame]
  · rw [guarded, hclause]
    decide

/-- The text of a plain default becomes that of what its value becomes. -/
theorem segment_renderDefault {value : String} (h : PlainDefault value) :
    Segment (renderDefault value).toList (renderDefault (ifNotExists value)).toList := by
  have hsame : ' ' ∉ value.toList → ifNotExists value = value := fun hspace =>
    ifNotExists_eq_iff.mpr (Segment.of_word hspace).guarded_eq
  rcases toList_renderDefault h with ⟨hword, hvalue⟩ | henclosed
  · have hspace : ' ' ∉ (renderDefault value).toList := fun hmem =>
      absurd (hword.not_isBlank ' ' hmem) (by decide)
    rw [hvalue] at hspace
    rw [hsame hspace, hvalue]
    exact .of_word hspace
  · have hsegment := segment_enclosed (by decide : IsBarrier '\'') value.toList
      (List.forall_mem_nil _)
    rw [List.append_nil, List.append_nil] at hsegment
    rcases toList_renderDefault (plainDefault_ifNotExists h) with ⟨hword, hvalue⟩ | henclosed'
    · have hspace : ' ' ∉ value.toList := by
        intro hmem
        have hmem' := (sublist_guardFrom [] value.toList).subset hmem
        rw [← guarded, ← toList_ifNotExists, ← hvalue] at hmem'
        exact absurd (hword.not_isBlank ' ' hmem') (by decide)
      rw [(Segment.of_word hspace).guarded_eq] at hsegment
      rw [hsame hspace, henclosed]
      exact hsegment
    · rw [henclosed, henclosed', toList_ifNotExists]
      exact hsegment

/-- The column with what its texts become in a script. -/
def guardColumn (column : Column) : Column :=
  { column with
    name := ifNotExists column.name
    type := ifNotExists column.type
    defaultValue := column.defaultValue.map ifNotExists }

theorem ifNotExists_eq_empty_iff {s : String} : ifNotExists s = "" ↔ s = "" := by
  constructor
  · intro h
    have hsublist := sublist_guardFrom [] s.toList
    rw [← guarded, ← toList_ifNotExists, h] at hsublist
    exact String.toList_eq_nil_iff.mp (List.sublist_nil.mp hsublist)
  · rintro rfl
    decide

theorem typeText_guardColumn (column : Column) :
    typeText (guardColumn column) = guarded (typeText column) := by
  rw [typeText, typeText]
  by_cases hempty : column.type = ""
  · have hempty' : (guardColumn column).type = "" := ifNotExists_eq_empty_iff.mpr hempty
    rw [hempty, hempty']
    decide
  · have hempty' : (guardColumn column).type ≠ "" := fun h =>
      hempty (ifNotExists_eq_empty_iff.mp h)
    rw [if_neg (by simpa using hempty'), if_neg (by simpa using hempty)]
    exact toList_ifNotExists column.type

section Column

variable {dialect : Dialect} {mark : Nullability} {column : Column}
  (htype : column.type = "" ∨ ∃ word tail, column.type.toList = word ++ tail ∧ PlainType word tail)
  (hdefault : ∀ value ∈ column.defaultValue, PlainDefault value)

include htype in
theorem plainType_guardColumn : (guardColumn column).type = "" ∨
    ∃ word tail, (guardColumn column).type.toList = word ++ tail ∧ PlainType word tail := by
  rcases htype with hempty | ⟨word, tail, htext, hplain⟩
  · exact Or.inl (ifNotExists_eq_empty_iff.mpr hempty)
  · obtain ⟨tail', hsegment, hplain'⟩ := exists_segment_plainType hplain
    refine Or.inr ⟨word, tail', ?_, hplain'⟩
    rw [← hsegment.guarded_eq, ← htext]
    exact toList_ifNotExists column.type

include hdefault in
theorem plainDefault_guardColumn : ∀ value ∈ (guardColumn column).defaultValue,
    PlainDefault value := by
  intro value hvalue
  obtain ⟨original, horiginal, rfl⟩ := Option.map_eq_some_iff.mp hvalue
  exact plainDefault_ifNotExists (hdefault original horiginal)

include hdefault in
theorem segment_defaultPart : Segment (defaultPart (defaultText? column))
    (defaultPart (defaultText? (guardColumn column))) := by
  cases hvalue : column.defaultValue with
  | none =>
      have hnone : defaultText? column = none ∧ defaultText? (guardColumn column) = none := by
        simp [defaultText?, guardColumn, hvalue]
      rw [hnone.1, hnone.2]
      exact .nil
  | some value =>
      have hsome : defaultText? column = some (renderDefault value).toList ∧
          defaultText? (guardColumn column) = some (renderDefault (ifNotExists value)).toList := by
        simp [defaultText?, guardColumn, hvalue]
      have hkeyword : Segment (' ' :: ("DEFAULT".toList ++ [' ']))
          (' ' :: ("DEFAULT".toList ++ [' '])) :=
        .of_spaces (by decide) (not_prefix_of_head? (c := 'D') (by decide) (by decide)) (by decide)
      have hsplit : ∀ text, defaultPart (some text)
          = ' ' :: ("DEFAULT".toList ++ [' ']) ++ text := fun text => by simp [defaultPart]
      rw [hsome.1, hsome.2, hsplit, hsplit]
      exact hkeyword.append (segment_renderDefault (hdefault value hvalue))

include htype hdefault

/-- The clause of a column becomes that of the column with what its texts become. -/
theorem segment_markedText :
    Segment (markedText dialect mark column) (markedText dialect mark (guardColumn column)) := by
  obtain ⟨word, tail, htext, hplain⟩ := typeText_plain htype
  obtain ⟨tail', hsegment, -⟩ := exists_segment_plainType hplain
  rw [← htext] at hsegment
  have htype' : Segment (typeText column) (typeText (guardColumn column)) := by
    rw [typeText_guardColumn, hsegment.guarded_eq]
    exact hsegment
  have hspace : ∀ c ∈ [' '], Text.isWordChar c = false := by decide
  have hname : Segment (Naming.enclosed dialect.quoteChar column.name.toList ++ [' '])
      (Naming.enclosed dialect.quoteChar (guardColumn column).name.toList ++ [' ']) := by
    have hsegment := segment_enclosed (isBarrier_quoteChar dialect) column.name.toList hspace
    rwa [← toList_ifNotExists] at hsegment
  have hall := hname.append
    (htype'.append ((segment_mark mark).append (segment_defaultPart hdefault)))
  simpa [markedText, clauseText, modifierPart] using hall

end Column

theorem segment_keyNames (dialect : Dialect) (names : List String) :
    Segment (keyNames dialect names) (keyNames dialect (names.map ifNotExists)) := by
  have hname (name : String) : Segment (Naming.enclosed dialect.quoteChar name.toList)
      (Naming.enclosed dialect.quoteChar (ifNotExists name).toList) := by
    have hsegment := segment_enclosed (isBarrier_quoteChar dialect) name.toList
      (List.forall_mem_nil _)
    rwa [List.append_nil, List.append_nil, ← toList_ifNotExists] at hsegment
  have hcomma : Segment [',', ' '] [',', ' '] := .of_gap (by decide) (by decide) (by decide)
  induction names with
  | nil => exact .nil
  | cons name names ih =>
      cases names with
      | nil => simpa [keyNames] using hname name
      | cons next names =>
          have hall := (hname name).append (hcomma.append ih)
          simpa [keyNames, List.intercalate_cons_cons] using hall

theorem segment_keyText (dialect : Dialect) (names : List String) :
    Segment (keyText dialect names) (keyText dialect (names.map ifNotExists)) := by
  have hwords : Segment keyWords keyWords := by
    have hsplit : keyWords = "PRIMARY".toList ++ ' ' :: ("KEY".toList ++ [' ']) := by decide
    rw [hsplit]
    exact (Segment.of_word (by decide)).append
      (.of_spaces (by decide) (not_prefix_of_head? (c := 'K') (by decide) (by decide)) (by decide))
  have hgroup : Segment ('(' :: (keyNames dialect names ++ [')']))
      ('(' :: (guarded (keyNames dialect names) ++ [')'])) :=
    .of_barriers (by decide) (by decide) _ (List.forall_mem_nil _)
  rw [(segment_keyNames dialect names).guarded_eq] at hgroup
  exact hwords.append hgroup

def guardedWords : List Char := "CREATE TABLE IF NOT EXISTS".toList

/-- The text of a statement with the clause up to its body. -/
def guardedHead (dialect : Dialect) (name : List Char) : List Char :=
  guardedWords ++ ([' '] ++ (Naming.enclosed dialect.quoteChar name ++ [' ']))

theorem segment_clausesText {clauses : List (List Char)}
    (h : ∀ clause ∈ clauses, Segment clause (guarded clause)) :
    Segment (clausesText clauses) (clausesText (clauses.map guarded)) := by
  have hline : Segment ['\n'] ['\n'] := .of_gap (by decide) (by decide) (List.forall_mem_nil _)
  have hcomma : Segment [',', '\n', ' ', ' '] [',', '\n', ' ', ' '] :=
    .of_gap (by decide) (by decide) (by decide)
  induction clauses with
  | nil => exact hline
  | cons clause clauses ih =>
      have hclause := h clause List.mem_cons_self
      cases clauses with
      | nil => exact hclause.append hline
      | cons next clauses =>
          exact hclause.append (hcomma.append
            (ih fun other hother => h other (List.mem_cons_of_mem clause hother)))

theorem guarded_bodyText {clauses : List (List Char)}
    (h : ∀ clause ∈ clauses, Segment clause (guarded clause)) :
    guarded (bodyText clauses) = bodyText (clauses.map guarded) := by
  rw [bodyText, guarded_gap (by decide), (segment_clausesText h).guarded_eq, bodyText]

theorem guarded_headWords :
    guarded headWords = guardedWords ++ [' '] := by
  decide +kernel

/-- The clause comes into the head of a statement, whose name and body are treated as if they stood
alone. -/
theorem guarded_statement (dialect : Dialect) (name body rest : List Char) :
    guarded (headText dialect name ++ body ++ [')'] ++ ';' :: rest)
      = guardedHead dialect (guarded name) ++ '(' :: (guarded body ++ [')'])
        ++ ';' :: guarded rest := by
  have hquote := isBarrier_quoteChar dialect
  have hsplit : headText dialect name ++ body ++ [')'] ++ ';' :: rest
      = headWords ++ dialect.quoteChar :: (Naming.doubled dialect.quoteChar name
        ++ dialect.quoteChar :: ' ' :: '(' :: (body ++ ')' :: ';' :: rest)) := by
    simp only [headText, Naming.enclosed, List.append_assoc, List.cons_append, List.nil_append]
  rw [hsplit, guarded_append_barrier hquote, guarded_append_barrier hquote,
    guarded_cons (by decide), guarded_cons (by decide), guarded_append_barrier (by decide),
    guarded_cons (by decide), guarded_headWords, guarded_doubled hquote]
  simp only [guardedHead, Naming.enclosed, List.append_assoc, List.cons_append, List.nil_append]

theorem spells_guardedWords : Spells ["CREATE", "TABLE", "IF", "NOT", "EXISTS"] guardedWords := by
  have hexists : Spells ["EXISTS"] " EXISTS".toList :=
    Spells.nil.cons_space (w := "EXISTS".toList) (by decide) (by decide) (by decide) (by decide)
  have hnot : Spells ["NOT", "EXISTS"] " NOT EXISTS".toList :=
    hexists.cons_space (w := "NOT".toList) (by decide) (by decide) (by decide) (by decide)
  have hguard : Spells ["IF", "NOT", "EXISTS"] " IF NOT EXISTS".toList :=
    hnot.cons_space (w := "IF".toList) (by decide) (by decide) (by decide) (by decide)
  have htable : Spells ["TABLE", "IF", "NOT", "EXISTS"] " TABLE IF NOT EXISTS".toList :=
    hguard.cons_space (w := "TABLE".toList) (by decide) (by decide) (by decide) (by decide)
  exact @Spells.cons _ _ [] "CREATE".toList _ (List.forall_mem_nil _) (by decide) (by decide)
    (by decide) (by decide) htable

theorem headName?_guardedHead (dialect : Dialect) (name : String) :
    headName? dialect (guardedHead dialect name.toList) = some name := by
  have hspace : ∀ text : List Char, ∀ c ∈ ([' '] ++ text).head?, isWordPart c = false := by
    intro text c hc
    cases hc
    decide
  have hquote : ∀ c ∈ [' '].head?, c ≠ dialect.quoteChar := by
    intro c hc
    cases hc
    cases dialect <;> decide
  obtain ⟨front, htokens, hlength, hstarts, -⟩ :=
    spells_guardedWords.exists_tokens dialect 0 (hspace (Naming.enclosed dialect.quoteChar
      name.toList ++ [' ']))
  have hgap : ∀ c ∈ [' '], Text.isSeparator c = true := by decide
  have hnone := tokensAt_gap dialect (0 + guardedWords.length + [' '].length
    + (Naming.enclosed dialect.quoteChar name.toList).length) hgap []
  rw [List.append_nil, tokensAt_nil] at hnone
  have hall : tokens dialect (guardedHead dialect name.toList)
      = front ++ [runToken dialect.quoteChar (0 + guardedWords.length + [' '].length)
          name.toList.reverse (0 + guardedWords.length + [' '].length
            + (Naming.enclosed dialect.quoteChar name.toList).length)] := by
    rw [tokens_eq_tokensAt, guardedHead, htokens, tokensAt_gap dialect _ hgap,
      tokensAt_name dialect _ _ hquote, hnone]
  set token := runToken dialect.quoteChar (0 + guardedWords.length + [' '].length)
    name.toList.reverse _ with htoken
  have hkind : token.kind = .quotedName := kind_runToken_quoteChar dialect _ _ _
  have hobject : objectName token = name := by
    rw [objectName, hkind, htoken, runToken, List.reverse_reverse]
    exact String.ofList_toList
  have hguard : startsWith ["IF"] [token] = false := by
    rw [startsWith, isKeyword_of_kind_ne (by rw [hkind]; decide), Bool.false_and]
  rw [headName?, hall, nameTokens_of_startsWith (Or.inr rfl) hlength (hstarts _) hguard]
  simp [Token.isName, hkind, hobject]

theorem heading_guardedHead (dialect : Dialect) (name : String) :
    Heading dialect name (guardedHead dialect name.toList) where
  contained := by
    have hwords : Seamless ';' guardedWords := by decide +kernel
    have hspace : Seamless ';' [' '] := by decide
    have hname : Seamless ';' (Naming.enclosed dialect.quoteChar name.toList) :=
      .enclosed (isQuote_quoteChar dialect) _
    exact (hwords.append (hspace.append (hname.append hspace))).contained
  first := by
    have hfirst : guardedWords.head? = some 'C' := by decide
    intro c hc
    rw [guardedHead, List.head?_append, hfirst] at hc
    cases hc
    decide
  named := headName?_guardedHead dialect name

/-! ### Tables

The clause may come into the texts of a table as it comes into the heads. What the changed statement
describes is computed for any texts first; that none of them is changed is then the condition for
this to be the original table.
-/

section Table

variable (dialect : Dialect) {table : Table} (h : Renderable table)

/-- A table as the script with the clause gives it. -/
def guardTable (table : Table) : Table :=
  assembled (ifNotExists table.name) (table.keyColumns.map ifNotExists)
    (table.columns.map fun column =>
      markedColumn (nullability table.keyColumns column) (guardColumn column))

include h

theorem segment_columnText {column : Column} (hmem : column ∈ table.columns) :
    Segment (columnText dialect table.keyColumns column)
      (markedText dialect (nullability table.keyColumns column) (guardColumn column)) :=
  segment_markedText (h.type_plain column hmem) (h.default_plain column hmem)

theorem segment_clauseTexts : ∀ clause ∈ clauseTexts dialect table,
    Segment clause (guarded clause) ∧ Standing (guarded clause) := by
  refine forall_mem_clauseTexts (fun column hmem => ?_) ?_
  · have hsegment := segment_columnText dialect h hmem
    rw [hsegment.guarded_eq]
    exact ⟨hsegment, standing_markedText (plainType_guardColumn (h.type_plain column hmem))
      (plainDefault_guardColumn (h.default_plain column hmem))⟩
  · rw [(segment_keyText dialect _).guarded_eq]
    exact ⟨segment_keyText dialect _, standing_keyText dialect _⟩

theorem readDefinition_guarded_columnText {column : Column} (hmem : column ∈ table.columns) :
    readDefinition dialect (guarded (columnText dialect table.keyColumns column))
      = .column (markedColumn (nullability table.keyColumns column) (guardColumn column)) := by
  have hname : (guardColumn column).name ≠ "" := fun hempty =>
    h.column_name_ne column hmem (ifNotExists_eq_empty_iff.mp hempty)
  rw [(segment_columnText dialect h hmem).guarded_eq]
  exact readDefinition_markedText hname (plainType_guardColumn (h.type_plain column hmem))
    (plainDefault_guardColumn (h.default_plain column hmem))

theorem readDefinition_guarded_clauseTexts :
    ((clauseTexts dialect table).map guarded).map (readDefinition dialect)
      = definitionsOf (table.keyColumns.map ifNotExists) (table.columns.map fun column =>
        markedColumn (nullability table.keyColumns column) (guardColumn column)) := by
  have hkey : (((keyClause dialect table.keyColumns).map String.toList).map guarded).map
        (readDefinition dialect)
      = if (table.keyColumns.map ifNotExists).length ≤ 1 then []
        else [.primaryKey (table.keyColumns.map ifNotExists)] := by
    rw [toList_keyClause, List.length_map]
    split_ifs
    · rfl
    · rw [List.map_singleton, List.map_singleton, (segment_keyText dialect _).guarded_eq,
        readDefinition_keyText]
  rw [clauseTexts, List.map_append, List.map_append, hkey, definitionsOf, List.map_map,
    List.map_map, List.map_map]
  congr 1
  exact List.map_congr_left fun column hmem => readDefinition_guarded_columnText dialect h hmem

theorem assemble_guarded : assemble (ifNotExists table.name)
    (((clauseTexts dialect table).map guarded).map (readDefinition dialect))
      = .ok (guardTable table) := by
  rw [readDefinition_guarded_clauseTexts dialect h, assemble_definitionsOf,
    Table.checked_eq_ok_iff]
  refine ⟨rfl, fun column hcolumn => ?_, by simp [assembled]⟩
  rw [assembled, declareKey_eq_map, List.map_map] at hcolumn
  obtain ⟨original, -, rfl⟩ := List.mem_map.mp hcolumn
  rw [Function.comp_apply, underDeclared]
  split_ifs <;> rfl

theorem restoredTable_eq_assembled : restoredTable table
    = assembled table.name table.keyColumns
        (table.columns.map (describedColumn table.keyColumns)) := by
  have hassemble : assemble table.name
      ((clauseTexts .sqlite table).map (readDefinition .sqlite)) = .ok (restoredTable table) :=
    assemble_renderable h
  have hread := readDefinition_clauseTexts .sqlite fun column hcolumn =>
    readDefinition_columnText (h.column_name_ne column hcolumn) (h.type_plain column hcolumn)
      (h.default_plain column hcolumn)
  rw [hread, assemble_definitionsOf] at hassemble
  exact (Table.checked_eq_ok_iff.mp hassemble).1

end Table

def shownTexts (column : Column) : String × String × Option String :=
  (column.name, column.type, column.defaultValue)

theorem shownTexts_underDeclared (names : List String) (column : Column) :
    shownTexts (underDeclared names column) = shownTexts column := by
  rw [underDeclared]
  split_ifs <;> rfl

theorem guardColumn_eq_of_shownTexts {keys : List String} {mark : Nullability} {column : Column}
    (h : shownTexts (markedColumn mark (guardColumn column))
      = shownTexts (restoredColumn keys column)) : guardColumn column = column := by
  obtain ⟨hname, htext, hdefault⟩ : ifNotExists column.name = column.name ∧
      (if ifNotExists column.type == "" then "TEXT" else ifNotExists column.type)
        = (if column.type == "" then "TEXT" else column.type) ∧
      column.defaultValue.map ifNotExists = column.defaultValue := by
    simpa [shownTexts, markedColumn, guardColumn, restoredColumn] using h
  have htype : ifNotExists column.type = column.type := by
    by_cases hempty : column.type = ""
    · rw [hempty, ifNotExists_eq_empty_iff]
    · have hempty' := mt ifNotExists_eq_empty_iff.mp hempty
      rwa [if_neg (by simpa using hempty'), if_neg (by simpa using hempty)] at htext
  rw [guardColumn, hname, htype, hdefault]

/-- A script with the clause gives a table that the script without it gives exactly if the clause
comes into none of its texts. -/
theorem guardTable_eq_iff {table : Table} (h : Renderable table) :
    guardTable table = restoredTable table ↔
      ifNotExists table.name = table.name ∧
        ∀ column ∈ table.columns, guardColumn column = column := by
  constructor
  · intro hsame
    refine ⟨congrArg Table.name hsame, ?_⟩
    have hcolumns := congrArg (fun found => found.columns.map shownTexts) hsame
    dsimp only [guardTable, assembled, restoredTable] at hcolumns
    rw [declareKey_eq_map, List.map_map, List.map_map, List.map_map] at hcolumns
    intro column hcolumn
    have htexts := List.map_inj_left.mp hcolumns column hcolumn
    dsimp only [Function.comp_apply] at htexts
    rw [shownTexts_underDeclared] at htexts
    exact guardColumn_eq_of_shownTexts htexts
  · rintro ⟨hname, hcolumns⟩
    have hkeys : table.keyColumns.map ifNotExists = table.keyColumns := by
      refine (List.map_congr_left fun key hkey => ?_).trans (List.map_id _)
      obtain ⟨column, hcolumn, rfl⟩ := List.mem_map.mp (keyColumns_subset h.keys_mem hkey)
      exact congrArg Column.name (hcolumns column hcolumn)
    rw [restoredTable_eq_assembled h, guardTable, hname, hkeys]
    congr 1
    refine List.map_congr_left fun column hcolumn => ?_
    rw [hcolumns column hcolumn]
    rfl

theorem guarded_intercalate {gap : List Char} (hgap : ∀ c ∈ gap, Text.isWordChar c = false)
    {texts : List (List Char)}
    (h : ∀ text ∈ texts, ∀ rest, guarded (text ++ rest) = guarded text ++ guarded rest) :
    guarded (gap.intercalate texts) = gap.intercalate (texts.map guarded) := by
  induction texts with
  | nil => rfl
  | cons text texts ih =>
      cases texts with
      | nil => rw [List.map_singleton, List.intercalate_singleton, List.intercalate_singleton]
      | cons next texts =>
          rw [List.intercalate_cons_cons, List.append_assoc, h text List.mem_cons_self,
            guarded_gap hgap, ih fun other hother => h other (List.mem_cons_of_mem text hother)]
          simp only [List.map_cons, List.intercalate_cons_cons, List.append_assoc]

theorem guarded_renderTable_append (dialect : Dialect) (table : Table) (rest : List Char) :
    guarded ((renderTable dialect table).toList ++ rest)
      = guardedHead dialect (guarded table.name.toList) ++ '(' ::
          (guarded (bodyText (clauseTexts dialect table)) ++ [')']) ++ ';' :: guarded rest := by
  rw [toList_renderTable, List.append_assoc _ [';'] rest]
  exact guarded_statement dialect _ _ rest

theorem guarded_renderTable (dialect : Dialect) (table : Table) :
    guarded (renderTable dialect table).toList
      = guardedHead dialect (guarded table.name.toList) ++ '(' ::
          (guarded (bodyText (clauseTexts dialect table)) ++ [')']) ++ [';'] := by
  have halone := guarded_renderTable_append dialect table []
  have hnil : guarded [] = [] := by decide
  rw [List.append_nil, hnil] at halone
  exact halone

/-- A rendered table with the clause is read in front of the tables of what follows. -/
theorem tablesIn_guarded_renderTable (dialect : Dialect) {table : Table} (h : Renderable table)
    (rest : List Char) :
    tablesIn dialect (Sql.stripComments (guarded (renderTable dialect table).toList ++ rest))
      = (do
        let others ← tablesIn dialect (Sql.stripComments rest)
        return guardTable table :: others) := by
  have hclauses := segment_clauseTexts dialect h
  have hstanding : ∀ clause ∈ (clauseTexts dialect table).map guarded, Standing clause := by
    intro clause hclause
    obtain ⟨original, horiginal, rfl⟩ := List.mem_map.mp hclause
    exact (hclauses original horiginal).2
  have hbody : guarded (bodyText (clauseTexts dialect table))
      = bodyText ((clauseTexts dialect table).map guarded) :=
    guarded_bodyText fun clause hclause => (hclauses clause hclause).1
  have hne : (clauseTexts dialect table).map guarded ≠ [] := by
    simp [clauseTexts, h.columns_ne]
  have hdefinitions : Sql.definitions (bodyText ((clauseTexts dialect table).map guarded))
      = (clauseTexts dialect table).map guarded :=
    definitions_clausesText (isBlank_of_mem (by simp)) hne hstanding
  have hcontained := fun clause hclause => (hstanding clause hclause).contained
  have hheading := heading_guardedHead dialect (ifNotExists table.name)
  have hname : ifNotExists table.name ≠ "" := mt ifNotExists_eq_empty_iff.mp h.name_ne
  have htables := hheading.tablesIn_eq hname (balanced_bodyText hcontained)
    (unmarked_bodyText hcontained)
    (trim_ne_nil_of_definitions (by rw [hdefinitions]; exact hne)) rest
  rw [hdefinitions, assemble_guarded dialect h, toList_ifNotExists] at htables
  rw [guarded_renderTable, hbody, List.append_assoc _ [';'] rest, List.singleton_append, htables]
  rfl

/-- With the clause in its heads, a rendered script gives the tables with what their texts
become. -/
theorem parse_ifNotExists_renderTables (dialect : Dialect) {tables : List Table}
    (h : ∀ table ∈ tables, Renderable table) :
    parse (ifNotExists (renderTables dialect tables)) (some dialect.name)
      = .ok (tables.map guardTable) := by
  have hline : ∀ c ∈ ['\n', '\n'], Text.isWordChar c = false := by decide
  have happend : ∀ text ∈ tables.map fun table => (renderTable dialect table).toList,
      ∀ rest, guarded (text ++ rest) = guarded text ++ guarded rest := by
    intro text htext rest
    obtain ⟨table, -, rfl⟩ := List.mem_map.mp htext
    rw [guarded_renderTable_append, guarded_renderTable, List.append_assoc _ [';']]
    rfl
  rw [parse_dialectName, scriptTables_eq, toList_ifNotExists, toList_renderTables,
    guarded_intercalate hline happend, List.map_map]
  clear happend
  induction tables with
  | nil => rfl
  | cons table tables ih =>
      have htables := tablesIn_intercalate_cons (fun others => do
          let others ← others
          return guardTable table :: others)
        (tablesIn_guarded_renderTable dialect (h table List.mem_cons_self))
        (tables.map (guarded ∘ fun table => (renderTable dialect table).toList))
      rw [List.map_cons, Function.comp_apply, htables,
        ih fun other hother => h other (List.mem_cons_of_mem table hother)]
      rfl

/-- Whether no text of a table holds the words of a head without the clause. -/
structure Headless (table : Table) : Prop where
  name : ¬ HasHead table.name.toList
  column_name : ∀ column ∈ table.columns, ¬ HasHead column.name.toList
  type : ∀ column ∈ table.columns, ¬ HasHead column.type.toList
  default : ∀ column ∈ table.columns, ∀ value ∈ column.defaultValue, ¬ HasHead value.toList

theorem ifNotExists_eq_self_iff {s : String} : ifNotExists s = s ↔ ¬ HasHead s.toList :=
  ifNotExists_eq_iff.trans guarded_eq_self_iff

theorem guardColumn_eq_iff {column : Column} : guardColumn column = column ↔
    ¬ HasHead column.name.toList ∧ ¬ HasHead column.type.toList ∧
      ∀ value ∈ column.defaultValue, ¬ HasHead value.toList := by
  rw [← ifNotExists_eq_self_iff, ← ifNotExists_eq_self_iff]
  constructor
  · intro h
    refine ⟨congrArg Column.name h, congrArg Column.type h, fun value hvalue => ?_⟩
    have hdefault : column.defaultValue.map ifNotExists = column.defaultValue :=
      congrArg Column.defaultValue h
    rw [Option.mem_def.mp hvalue] at hdefault
    exact ifNotExists_eq_self_iff.mp (Option.some.inj hdefault)
  · rintro ⟨hname, htype, hdefault⟩
    have hvalue : column.defaultValue.map ifNotExists = column.defaultValue := by
      cases hvalue : column.defaultValue with
      | none => rfl
      | some value =>
          rw [Option.map_some, ifNotExists_eq_self_iff.mpr (hdefault value hvalue)]
    rw [guardColumn, hname, htype, hvalue]

theorem headless_iff {table : Table} : Headless table ↔ ifNotExists table.name = table.name ∧
    ∀ column ∈ table.columns, guardColumn column = column := by
  rw [ifNotExists_eq_self_iff]
  simp only [guardColumn_eq_iff]
  constructor
  · exact fun h => ⟨h.name, fun column hcolumn =>
      ⟨h.column_name column hcolumn, h.type column hcolumn, h.default column hcolumn⟩⟩
  · rintro ⟨hname, hcolumns⟩
    exact ⟨hname, fun column hcolumn => (hcolumns column hcolumn).1,
      fun column hcolumn => (hcolumns column hcolumn).2.1,
      fun column hcolumn => (hcolumns column hcolumn).2.2⟩

/-- The clause in its heads leaves what a rendered script gives exactly if no text of its tables
holds the words of a head. -/
theorem parse_ifNotExists_iff (dialect : Dialect) {tables : List Table}
    (h : ∀ table ∈ tables, Renderable table) :
    parse (ifNotExists (renderTables dialect tables)) (some dialect.name)
        = parse (renderTables dialect tables) (some dialect.name) ↔
      ∀ table ∈ tables, Headless table := by
  have hclauses : ∀ table ∈ tables, table.name ≠ "" ∧ clauseTexts dialect table ≠ [] ∧
      ∀ clause ∈ clauseTexts dialect table, Standing clause := by
    intro table htable
    have hplain := h table htable
    refine ⟨hplain.name_ne, by simp [clauseTexts, hplain.columns_ne],
      standing_clauseTexts dialect fun column hcolumn => ?_⟩
    exact standing_columnText (hplain.type_plain column hcolumn)
      (hplain.default_plain column hcolumn)
  rw [parse_ifNotExists_renderTables dialect h, parse_dialectName,
    scriptTables_renderTables_eq_mapM dialect hclauses, eq_comm, mapM_eq_ok_iff, List.map_map,
    List.map_inj_left]
  refine forall₂_congr fun table htable => ?_
  rw [assemble_renderable (h table htable), Function.comp_apply, Except.ok.injEq, eq_comm,
    guardTable_eq_iff (h table htable), headless_iff]

/-- A table whose only column has a statement as its default. -/
def snippets (statement : String) : Table where
  name := "snippets"
  columns := [{ name := "statement", defaultValue := some statement, type := "TEXT" }]

theorem renderable_snippets {statement : String} (h : PlainDefault statement) :
    Renderable (snippets statement) where
  name_ne := by
    show "snippets" ≠ ""
    decide
  columns_ne := List.cons_ne_nil _ _
  column_name_ne := by
    intro column hcolumn
    rw [List.mem_singleton.mp hcolumn]
    show "statement" ≠ ""
    decide
  distinct := by
    have hnames : (snippets statement).columnNames = ["statement"] := rfl
    rw [hnames]
    unfold DistinctFolds
    decide
  type_plain := by
    intro column hcolumn
    rw [List.mem_singleton.mp hcolumn]
    exact Or.inr ⟨"TEXT".toList, [], (List.append_nil _).symm, plainType_text⟩
  keys_nodup := List.nodup_nil
  keys_mem := List.nil_subset _
  default_plain := by
    intro column hcolumn value hvalue
    rw [List.mem_singleton.mp hcolumn] at hvalue
    exact Option.some.inj hvalue ▸ h

theorem parse_ifNotExists_snippets :
    (∀ table ∈ [snippets "CREATE TABLE IF NOT EXISTS t"], Renderable table) ∧
      parse (ifNotExists (renderTables .sqlite [snippets "CREATE TABLE IF NOT EXISTS t"]))
          (some "sqlite")
        = parse (renderTables .sqlite [snippets "CREATE TABLE IF NOT EXISTS t"]) (some "sqlite") := by
  have hrenderable : ∀ table ∈ [snippets "CREATE TABLE IF NOT EXISTS t"], Renderable table := by
    intro table htable
    rw [List.mem_singleton.mp htable]
    exact renderable_snippets (by unfold PlainDefault; decide)
  refine ⟨hrenderable, (parse_ifNotExists_iff .sqlite hrenderable).mpr fun table htable => ?_⟩
  rw [List.mem_singleton.mp htable, headless_iff]
  decide +kernel

/-- A default that says what would be a head outside the quotes is changed. -/
theorem parse_ifNotExists_default :
    Renderable (snippets "CREATE TABLE t") ∧
      parse (renderTables .sqlite [snippets "CREATE TABLE t"]) (some "sqlite")
        = .ok [snippets "CREATE TABLE t"] ∧
      parse (ifNotExists (renderTables .sqlite [snippets "CREATE TABLE t"])) (some "sqlite")
        = .ok [snippets "CREATE TABLE IF NOT EXISTS t"] := by
  refine ⟨renderable_snippets (by unfold PlainDefault; decide), ?_, ?_⟩ <;> decide +kernel

end RelSchema.Ddl
