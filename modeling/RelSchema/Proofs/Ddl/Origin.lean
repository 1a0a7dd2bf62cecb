import RelSchema.Proofs.Ddl.Key
import RelSchema.Proofs.Schema.Consistent
import RelSchema.Proofs.Sql.Part
import RelSchema.Proofs.Text.Cut

/-!
# What a script can give

The tables of a script have names, and so have their columns. The type of a column is a piece of the
script: a word and what may follow it, which leaves nothing open and holds no comment and no comma
of its own. The marks of the columns agree with the key of the table.
-/

namespace RelSchema

namespace Ddl

open Sql (Token Balanced SelfContained Unmarked isWordPart Lexeme)
open Sql.Pending (wordToken)

/-- Whether a word and what follows it are a type that was read from a definition. -/
structure ReadType (word tail : List Char) : Prop where
  ne_nil : word ≠ []
  code : ∀ c ∈ word, isWordPart c = true
  head : ∀ c ∈ tail.head?, isWordPart c = false
  goes_on : TypeTail tail
  contained : SelfContained ',' (word ++ tail)

def firstWord (type : String) : List Char :=
  type.toList.takeWhile isWordPart

/-- Whether a type numbers the rows of its table. -/
def isSerial (type : String) : Bool :=
  serialTypes.contains (Text.upper (.ofList (firstWord type)))

theorem ReadType.firstWord_eq {word tail : List Char} (h : ReadType word tail) {type : String}
    (htype : type.toList = word ++ tail) : firstWord type = word := by
  rw [firstWord, htype]
  exact Text.takeWhile_append_eq h.code h.head

theorem Spells.balanced {words : List String} {text : List Char} (h : Spells words text) :
    Balanced text := by
  induction h with
  | nil => exact .nil
  | cons hgap hne hw hupper hend htext ih =>
      exact (Sql.Balanced.of_isSeparator hgap).append ((Sql.Balanced.of_isWordPart hw).append ih)

theorem TypeTail.balanced {tail : List Char} (h : TypeTail tail) : Balanced tail := by
  induction h with
  | nil => exact .nil
  | @group gap inner tail hgap hinner htail ih =>
      have hsplit : '(' :: inner ++ ')' :: tail = ('(' :: inner ++ [')']) ++ tail := by simp
      rw [hsplit]
      exact (Sql.Balanced.of_isSeparator hgap).append (hinner.parenthesized.append ih)
  | phrase hwords htext hend htail ih => exact htext.balanced.append ih

/-- Whether a column can come from a script. -/
structure ParsedColumn (column : Column) : Prop where
  name_ne : column.name ≠ ""
  read_type : ∃ word tail, column.type.toList = word ++ tail ∧ ReadType word tail
  serial : isSerial column.type = true → column.isNullable = false
  marked : column.isPrimaryKey = true → column.isNullable = false
  undeclared : column.declaredType = none

/-- Whether a column can come from a script does not depend on what it refers to. -/
theorem ParsedColumn.of_withoutReference {column other : Column} (h : ParsedColumn column)
    (hsame : other.withoutReference = column.withoutReference) : ParsedColumn other := by
  obtain ⟨hname, htype, hdeclared, hmark, hnullable, -⟩ := Column.withoutReference_eq_iff.mp hsame
  constructor
  · rw [hname]
    exact h.name_ne
  · rw [htype]
    exact h.read_type
  · rw [htype, hnullable]
    exact h.serial
  · rw [hmark, hnullable]
    exact h.marked
  · rw [hdeclared]
    exact h.undeclared

theorem balanced_of_lexeme {token : Token} {lexeme rest : List Char} (h : Lexeme token lexeme rest)
    (hopen : token.kind ≠ .opening) (hclose : token.kind ≠ .closing) (hrest : rest ≠ []) :
    Balanced lexeme := by
  rcases h.after?_cases with ⟨hkind, -⟩ | ⟨htoken, -⟩ | ⟨-, quote?, hquote, hlevel⟩
  · exact absurd hkind hopen
  · exact absurd (by rw [htoken]; rfl) hclose
  · rcases hquote with rfl | hnil
    · exact hlevel 0
    · exact absurd hnil hrest

/-- The type of a column stands behind a balanced text, with a word in front of it. -/
theorem exists_typeWord {dialect : Dialect} {definition : List Char} {name type : Token}
    {rest : List Token} (htokens : tokens dialect definition = name :: type :: rest)
    (hname : name.isName = true) (hword : type.kind = .word) :
    ∃ before word behind, definition = before ++ (word ++ behind) ∧ Balanced before ∧
      word ≠ [] ∧ (∀ c ∈ word, isWordPart c = true) ∧ (∀ c ∈ behind.head?, isWordPart c = false) ∧
      type.value = .ofList word ∧ type.start = before.length ∧
      type.stop = before.length + word.length ∧ rest = tokensAt dialect type.stop behind := by
  obtain ⟨nameRaw, others, hraw, rfl, hothers⟩ :
      ∃ nameRaw others, Sql.tokenize definition = nameRaw :: others ∧
        readToken dialect nameRaw = name ∧ others.map (readToken dialect) = type :: rest :=
    List.map_eq_cons_iff.mp htokens
  obtain ⟨typeRaw, others', rfl, htypeRead, rfl⟩ :
      ∃ typeRaw others', others = typeRaw :: others' ∧ readToken dialect typeRaw = type ∧
        others'.map (readToken dialect) = rest :=
    List.map_eq_cons_iff.mp hothers
  have htypeKind : typeRaw.kind = .word := by
    rw [← kind_readToken_iff dialect (by decide) (by decide), htypeRead]
    exact hword
  obtain rfl : typeRaw = type := by
    rw [← htypeRead, readToken_of_ne dialect (by rw [htypeKind]; decide)]
  have hnameKind : nameRaw.kind ≠ .opening ∧ nameRaw.kind ≠ .closing := by
    have hkind : (readToken dialect nameRaw).kind = .word ∨
        (readToken dialect nameRaw).kind = .quotedName := by simpa [Token.isName] using hname
    constructor <;> intro h <;>
      rw [readToken_of_ne dialect (by rw [h]; decide), h] at hkind <;> simp at hkind
  obtain ⟨gap, lexeme, behind, rfl, hgap, hlexeme, hstart, hstop, hbehind⟩ :=
    Sql.exists_lexeme hraw
  obtain ⟨gap', word, s, rfl, hgap', hlexeme', hstart', hstop', hs⟩ := Sql.exists_lexeme hbehind
  obtain ⟨hne, hcode, hend, start, htype⟩ := hlexeme'.of_kind hword
  have hlexemeBalanced : Balanced lexeme :=
    balanced_of_lexeme hlexeme hnameKind.1 hnameKind.2 (by simp [hne])
  have hbefore : typeRaw.start = (gap ++ (lexeme ++ gap')).length := by
    rw [hstart', hstop, hstart]
    simp only [List.length_append]
    omega
  refine ⟨gap ++ (lexeme ++ gap'), word, s, by simp, ?_, hne, hcode, hend, ?_, hbefore, ?_, ?_⟩
  · exact (Sql.Balanced.of_isSeparator hgap).append
      (hlexemeBalanced.append (Sql.Balanced.of_isSeparator hgap'))
  · rw [htype, value_wordToken]
  · rw [hstop', hbefore]
  · rw [tokensAt, hs]

/-- The first tokens of a definition of a column cover its name and its type. -/
theorem exists_readType {dialect : Dialect} {definition : List Char} {name type : Token}
    {rest : List Token} (hdefinition : SelfContained ',' definition)
    (htokens : tokens dialect definition = name :: type :: rest) (hname : name.isName = true)
    (hword : type.kind = .word) :
    ∃ word tail, Sql.slice definition type.start (typeEnd type.stop rest).1 = word ++ tail ∧
      ReadType word tail ∧ type.value = .ofList word := by
  obtain ⟨before, word, behind, rfl, hbefore, hne, hcode, hend, hvalue, hstart, hstop, hrest⟩ :=
    exists_typeWord htokens hname hword
  obtain ⟨stop, modifiers, htypeEnd⟩ :
      ∃ stop modifiers, typeEnd type.stop rest = (stop, modifiers) := ⟨_, _, rfl⟩
  have htypeEnd' := htypeEnd
  rw [hrest] at htypeEnd'
  obtain ⟨tail, after, rfl, htail, hstopTail, -⟩ := exists_typeTail htypeEnd'
  have hstopType : stop = before.length + (word ++ tail).length := by
    rw [hstopTail, hstop, @List.length_append Char word tail, Nat.add_assoc]
  rw [← List.append_assoc word] at hdefinition ⊢
  have htype := (Sql.Balanced.of_isWordPart hcode).append htail.balanced
  refine ⟨word, tail, ?_, ⟨hne, hcode, ?_, htail, htype, ?_, ?_⟩, hvalue⟩
  · rw [htypeEnd, hstart, hstopType]
    exact Sql.slice_append_append before (word ++ tail) after
  · exact fun c hc => hend c (mem_head?_append hc after)
  · exact (hdefinition.whole.of_append_right hbefore.clampedAfter_eq).of_append_left
  · exact (hdefinition.unmarked.of_append_right hbefore.openQuote_eq).of_append_left

/-- A column that is read from a definition between commas can come from a script. -/
theorem parsedColumn_of_readDefinition {dialect : Dialect} {definition : List Char} {column : Column}
    (hdefinition : SelfContained ',' definition)
    (h : readDefinition dialect definition = .column column) : ParsedColumn column := by
  obtain ⟨name, type, rest, htokens, hstarts, rfl⟩ := readDefinition_eq_column_iff.mp h
  obtain ⟨word, tail, hslice, htype, hvalue⟩ :=
    exists_readType hdefinition htokens hstarts.isName hstarts.isType
  have hserial : ∀ text : String, text.toList = word ++ tail →
      isSerial text = serialTypes.contains type.upper := by
    intro text htext
    rw [isSerial, htype.firstWord_eq htext, Token.upper, hvalue]
  obtain ⟨stop, modifiers, hend⟩ :
      ∃ stop modifiers, typeEnd type.stop rest = (stop, modifiers) := ⟨_, _, rfl⟩
  rw [readColumn]
  rw [hend] at hslice ⊢
  have hbase : ParsedColumn {
      name := columnName name
      type := .ofList (Sql.slice definition type.start stop)
      isPrimaryKey := hasPair "PRIMARY" "KEY" (bareWords modifiers) ||
        serialTypes.contains type.upper
      isNullable := !(hasPair "PRIMARY" "KEY" (bareWords modifiers) ||
        serialTypes.contains type.upper || hasPair "NOT" "NULL" (bareWords modifiers))
      defaultValue := default? definition modifiers } := by
    refine ⟨hstarts.named, ⟨word, tail, ?_, htype⟩, ?_, ?_, rfl⟩
    · rw [String.toList_ofList]
      exact hslice
    · intro hser
      rw [hserial _ (by rw [String.toList_ofList]; exact hslice)] at hser
      rw [hser]
      simp
    · intro hmark
      have hmark' : (hasPair "PRIMARY" "KEY" (bareWords modifiers) ||
        serialTypes.contains type.upper) = true := hmark
      rw [hmark']
      rfl
  dsimp only
  split
  · exact hbase
  · exact hbase.of_withoutReference rfl

/-- Whether a table can come from a script. -/
structure ParsedTable (table : Table) : Prop where
  name_ne : table.name ≠ ""
  relations_nil : table.relations = []
  uncounted : table.rowCount = 0
  parsed_columns : ∀ column ∈ table.columns, ParsedColumn column
  declared_keys : ∃ names, table.primaryKeys = primaryKeyOrder table.columns names ∧
    (names ≠ [] → ∀ column ∈ table.columns,
      column.isPrimaryKey = names.any (Text.sameFold column.name))

theorem withoutReference_applyForeignKey (columns : List Column) (key : ForeignKey) :
    (applyForeignKey columns key).map Column.withoutReference
      = columns.map Column.withoutReference := by
  rw [applyForeignKey, List.map_map]
  refine List.map_congr_left fun column _ => ?_
  rw [Function.comp_apply]
  split
  · exact Column.withoutReference_asForeignKey column key.table key.key
  · rfl

theorem withoutReference_foldl (keys : List ForeignKey) (columns : List Column) :
    (keys.foldl applyForeignKey columns).map Column.withoutReference
      = columns.map Column.withoutReference := by
  induction keys generalizing columns with
  | nil => rfl
  | cons key keys ih =>
      rw [List.foldl_cons, ih, withoutReference_applyForeignKey]

theorem exists_of_mem_foldl {keys : List ForeignKey} {columns : List Column} {column : Column}
    (h : column ∈ keys.foldl applyForeignKey columns) :
    ∃ original ∈ columns, column.withoutReference = original.withoutReference := by
  have hmem : column.withoutReference ∈ columns.map Column.withoutReference := by
    rw [← withoutReference_foldl keys columns]
    exact List.mem_map_of_mem h
  obtain ⟨original, horiginal, hsame⟩ := List.mem_map.mp hmem
  exact ⟨original, horiginal, hsame.symm⟩

theorem ParsedColumn.declareKey {columns : List Column} (names : List String)
    (h : ∀ column ∈ columns, ParsedColumn column) :
    ∀ column ∈ declareKey names columns, ParsedColumn column ∧
      (names ≠ [] → column.isPrimaryKey = names.any (Text.sameFold column.name)) := by
  intro column hcolumn
  rw [Ddl.declareKey] at hcolumn
  split at hcolumn
  · next hempty => exact ⟨h column hcolumn, fun hne => absurd (List.isEmpty_iff.mp hempty) hne⟩
  · obtain ⟨original, horiginal, rfl⟩ := List.mem_map.mp hcolumn
    obtain ⟨hname, htype, hserial, hmarked, hdeclared⟩ := h original horiginal
    split
    · next hany => exact ⟨⟨hname, htype, fun _ => rfl, fun _ => rfl, hdeclared⟩, fun _ => hany.symm⟩
    · next hany =>
      refine ⟨⟨hname, htype, hserial, fun hmark => absurd hmark (by simp), hdeclared⟩, fun _ => ?_⟩
      exact (Bool.eq_false_iff.mpr hany).symm

theorem parsedTable_of_assemble {dialect : Dialect} {name : String} (hname : name ≠ "")
    {texts : List (List Char)} (htexts : ∀ text ∈ texts, SelfContained ',' text) {table : Table}
    (h : assemble name (texts.map (readDefinition dialect)) = .ok table) : ParsedTable table := by
  rw [assemble, Table.checked_eq_ok_iff] at h
  obtain ⟨rfl, -, -⟩ := h
  set definitions := texts.map (readDefinition dialect) with hdefinitions
  have hread : ∀ column ∈ definitions.filterMap Definition.column?, ParsedColumn column := by
    intro column hcolumn
    obtain ⟨definition, hdefinition, hsome⟩ := List.mem_filterMap.mp hcolumn
    obtain ⟨text, htext, rfl⟩ := List.mem_map.mp hdefinition
    cases hkind : readDefinition dialect text with
    | column found =>
        rw [hkind] at hsome
        cases hsome
        exact parsedColumn_of_readDefinition (htexts text htext) hkind
    | primaryKey names =>
        rw [hkind] at hsome
        cases hsome
    | foreignKeys keys =>
        rw [hkind] at hsome
        cases hsome
    | nothing =>
        rw [hkind] at hsome
        cases hsome
  have hdeclared := ParsedColumn.declareKey (definitions.flatMap Definition.keyNames) hread
  refine ⟨hname, rfl, rfl, ?_, definitions.flatMap Definition.keyNames, rfl, ?_⟩
  · intro column hcolumn
    obtain ⟨original, horiginal, hsame⟩ := exists_of_mem_foldl hcolumn
    exact (hdeclared original horiginal).1.of_withoutReference hsame
  · intro hne column hcolumn
    obtain ⟨original, horiginal, hsame⟩ := exists_of_mem_foldl hcolumn
    obtain ⟨hsameName, -, -, hmark, -⟩ := Column.withoutReference_eq_iff.mp hsame
    rw [hmark, hsameName]
    exact (hdeclared original horiginal).2 hne

theorem parsedTable_of_statement {dialect : Dialect} {statement : List Char} {table : Table}
    (hstatement : Unmarked statement) (h : statementTable? dialect statement = some (.ok table)) :
    ParsedTable table := by
  rw [statementTable?] at h
  dsimp only at h
  split_ifs at h
  all_goals
    generalize hdrop : List.drop _ _ = rest at h
    cases rest with
    | nil => cases h
    | cons head others =>
        rw [readTable?] at h
        split_ifs at h with hnamed
        simp only [Bool.and_eq_true, bne_iff_ne] at hnamed
        have hmem : head ∈ tokens dialect statement := by
          have hhead : head ∈ head :: others := List.mem_cons_self
          rw [← hdrop] at hhead
          first
            | exact List.mem_of_mem_drop (List.mem_of_mem_drop hhead)
            | exact List.mem_of_mem_drop hhead
        obtain ⟨raw, hraw, rfl⟩ := List.mem_map.mp hmem
        rw [readToken_stop] at h
        obtain ⟨hbalanced, hunmarked⟩ :=
          Sql.Brackets.inside_contained (Sql.unmarked_drop_of_mem_tokens hstatement hraw)
        refine @parsedTable_of_assemble dialect _ hnamed.1.2 _ ?_ _ (Option.some.inj h)
        intro text htext
        exact Sql.selfContained_of_mem_splitTopLevel Sql.isSeparating_comma hbalanced hunmarked htext

/-- The tables of a script can come from a script, whatever the script is. -/
theorem parsedTable_of_scriptTables {dialect : Dialect} {script : String} {tables : List Table}
    (h : scriptTables dialect script = .ok tables) : ∀ table ∈ tables, ParsedTable table := by
  intro table htable
  rw [scriptTables, mapM_eq_ok_iff, List.map_id] at h
  have hmem : Except.ok table ∈ (Sql.statements (Sql.stripComments script.toList)).filterMap
      (statementTable? dialect) := by
    rw [h]
    exact List.mem_map_of_mem htable
  obtain ⟨statement, hstatement, hsome⟩ := List.mem_filterMap.mp hmem
  exact parsedTable_of_statement (Sql.unmarked_of_mem_splitTopLevel (by decide)
    (Sql.unmarked_stripComments _) hstatement) hsome

end Ddl

end RelSchema
