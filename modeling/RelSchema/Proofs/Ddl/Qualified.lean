import RelSchema.Proofs.Ddl.Paired
import RelSchema.Proofs.Text.Case

/-!
# Qualified names

A qualified name is one word if both of its parts are bare, and only then its last part is found. A
quoted part is a token of its own, so in any other spelling the name ends with the first token: with
the schema if this is quoted, and with nothing if the schema is bare and the table is quoted. It is
read alike in the head of a statement, in the definition of a column and in a constraint.
-/

namespace RelSchema.Ddl

open Sql (Token Balanced SelfContained isWordPart isQuote isBreak_gap)
open Sql.Pending (wordToken runToken)

/-- The name of a table with the schema in front of it. -/
structure QualifiedName where
  schema : SpelledName
  table : SpelledName

namespace QualifiedName

def text (dialect : Dialect) (name : QualifiedName) : List Char :=
  name.schema.text dialect ++ '.' :: name.table.text dialect

structure Regular (name : QualifiedName) : Prop where
  schema : name.schema.Regular
  table : name.table.Regular

def found (name : QualifiedName) : String :=
  if name.schema.isQuoted then .ofList name.schema.letters
  else if name.table.isQuoted then ""
  else .ofList name.table.letters

/-- Whether the name is read as its table: both parts are bare, or the schema is quoted and has the
same name. -/
def Resolves (name : QualifiedName) : Prop :=
  (name.schema.isQuoted = false ∧ name.table.isQuoted = false) ∨
    (name.schema.isQuoted = true ∧ name.schema.letters = name.table.letters)

variable {name : QualifiedName}

theorem found_eq_iff (h : name.Regular) :
    name.found = .ofList name.table.letters ↔ name.Resolves := by
  have hne := h.table.ofList_ne.symm
  unfold found Resolves
  cases hschema : name.schema.isQuoted with
  | true => simp [String.ofList_inj]
  | false =>
      cases htable : name.table.isQuoted with
      | true => simpa using hne
      | false => simp

theorem objectName_wordToken (start stop : Nat) (before : List Char) {rest : List Char}
    (hrest : ∀ c ∈ rest, Text.isWordChar c = true) :
    objectName (wordToken start (before ++ '.' :: rest).reverse stop) = .ofList rest := by
  have hpoint : '.' ∉ rest := fun hmem => absurd (hrest '.' hmem) (by decide)
  have hplain : ∀ c ∈ rest, Text.isBlank c = false ∧ c ∉ nameMarks := fun c hc =>
    ⟨(plain_of_isWordChar (hrest c hc)).1, (plain_of_isWordChar (hrest c hc)).2.2⟩
  rw [objectName, kind_wordToken, if_neg (by decide), value_wordToken, String.toList_ofList,
    Text.cutAtLast?_append before hpoint]
  exact unquoteIdentifier_eq_self hplain

/-- From the point on, a bare table goes on with the word in front of it, and a quoted one follows
it. -/
theorem exists_tokensAt_point {table : SpelledName} (htable : table.Regular) (dialect : Dialect)
    (position : Nat) {w : List Char} (hw : ∀ c ∈ w, isWordPart c = true) :
    ∃ stop others, tokensAt dialect position (w ++ '.' :: table.text dialect)
        = wordToken position (w ++ '.' :: (if table.isQuoted then [] else table.letters)).reverse stop
          :: others ∧ ∀ other ∈ others, other.kind ≠ .opening := by
  have hpoint : isWordPart '.' = true := by decide
  unfold SpelledName.text
  cases hquoted : table.isQuoted with
  | true =>
      have hword : ∀ c ∈ w ++ ['.'], isWordPart c = true := by
        intro c hc
        rcases List.mem_append.mp hc with hc | hc
        · exact hw c hc
        · rwa [List.mem_singleton.mp hc]
      have hend : ∀ c ∈ (Naming.enclosed dialect.quoteChar table.letters).head?,
          isWordPart c = false := by
        intro c hc
        cases hc
        simp [isWordPart, isQuote_quoteChar]
      have hsplit : w ++ '.' :: Naming.enclosed dialect.quoteChar table.letters
          = (w ++ ['.']) ++ Naming.enclosed dialect.quoteChar table.letters := by simp
      have hname := @tokensAt_name dialect (position + (w ++ ['.']).length) table.letters []
        (by simp)
      rw [List.append_nil] at hname
      rw [if_pos rfl, if_pos rfl, hsplit, tokensAt_word dialect position (by simp) hword hend, hname]
      refine ⟨_, _, rfl, fun other hother => ?_⟩
      rcases List.mem_cons.mp hother with rfl | hother
      · rw [kind_runToken_quoteChar]
        decide
      · cases hother
  | false =>
      have hword : ∀ c ∈ w ++ '.' :: table.letters, isWordPart c = true := by
        intro c hc
        rcases List.mem_append.mp hc with hc | hc
        · exact hw c hc
        · rcases List.mem_cons.mp hc with rfl | hc
          · exact hpoint
          · exact isWordPart_of_isWordChar (htable.bare hquoted c hc)
      have htokens := @tokensAt_word dialect position (w ++ '.' :: table.letters) [] (by simp) hword
        (by simp)
      rw [List.append_nil] at htokens
      rw [if_neg Bool.false_ne_true, if_neg Bool.false_ne_true, htokens]
      exact ⟨_, _, rfl, List.forall_mem_nil _⟩

theorem Regular.seamless_text (h : name.Regular) (dialect : Dialect) (separator : Char)
    (hseparator : Text.IsReserved separator) : Seamless separator (name.text dialect) := by
  have hpoint : Seamless separator ['.'] := by
    refine .of_not_isReserved hseparator fun c hc => ?_
    rw [List.mem_singleton.mp hc]
    decide
  exact (h.schema.seamless_text dialect separator hseparator).append
    (hpoint.append (h.table.seamless_text dialect separator hseparator))

/-- The first token of a qualified name names what is found and is no keyword, and no other opens
parentheses. -/
theorem Regular.exists_tokensAt (h : name.Regular) (dialect : Dialect) (position : Nat) :
    ∃ first others, tokensAt dialect position (name.text dialect) = first :: others ∧
      first.isName = true ∧ objectName first = name.found ∧
      (∀ keyword, '.' ∉ keyword.toList → first.isKeyword [keyword] = false) ∧
      ∀ other ∈ others, other.kind ≠ .opening := by
  have hbare : ∀ c ∈ (if name.table.isQuoted then [] else name.table.letters),
      Text.isWordChar c = true := by
    intro c hc
    cases hquoted : name.table.isQuoted with
    | true =>
        rw [hquoted] at hc
        cases hc
    | false =>
        rw [hquoted] at hc
        exact h.table.bare hquoted c hc
  unfold text found
  rw [SpelledName.text]
  cases hschema : name.schema.isQuoted with
  | true =>
      obtain ⟨stop, others, htokens, hflat⟩ := exists_tokensAt_point h.table dialect
        (position + (Naming.enclosed dialect.quoteChar name.schema.letters).length)
        (w := []) (List.forall_mem_nil _)
      obtain ⟨hname, hobject⟩ := objectName_runToken dialect position name.schema.letters _
      have hend : ∀ c ∈ ('.' :: name.table.text dialect).head?, c ≠ dialect.quoteChar := by
        intro c hc
        cases hc
        exact ne_quoteChar_of_not_isQuote dialect (by decide)
      rw [List.nil_append] at htokens
      rw [if_pos rfl, if_pos rfl, tokensAt_name dialect position _ hend, htokens]
      refine ⟨_, _, rfl, hname, hobject, fun keyword _ => ?_, fun other hother => ?_⟩
      · exact isKeyword_of_kind_ne (by rw [kind_runToken_quoteChar]; decide) _
      rcases List.mem_cons.mp hother with rfl | hother
      · rw [kind_wordToken]
        decide
      · exact hflat other hother
  | false =>
      have hword : ∀ c ∈ name.schema.letters, isWordPart c = true :=
        fun c hc => isWordPart_of_isWordChar (h.schema.bare hschema c hc)
      obtain ⟨stop, others, htokens, hflat⟩ := exists_tokensAt_point h.table dialect position hword
      rw [if_neg Bool.false_ne_true, if_neg Bool.false_ne_true, htokens]
      refine ⟨_, _, rfl, rfl, ?_, fun keyword hkeyword => ?_, hflat⟩
      · rw [objectName_wordToken position stop name.schema.letters hbare]
        split_ifs <;> rfl
      · rw [isKeyword_wordToken]
        have hne : keyword ≠ Text.upper (.ofList (name.schema.letters
            ++ '.' :: (if name.table.isQuoted then [] else name.table.letters))) := by
          rintro rfl
          exact hkeyword (Text.mem_upper (by decide) (by simp))
        simpa using hne.symm

end QualifiedName

inductive QualifiedHead (dialect : Dialect) (name : QualifiedName) : List Char → Prop
  | intro {keywords : List String} {words gap behind : List Char}
      (hkeywords : keywords = ["CREATE", "TABLE"] ∨
        keywords = ["CREATE", "TABLE", "IF", "NOT", "EXISTS"])
      (hwords : Spells keywords words) (hfirst : ∀ c ∈ words.head?, Text.isBlank c = false)
      (hgap : ∀ c ∈ gap, Text.isSeparator c = true)
      (hend : ∀ c ∈ (gap ++ (name.text dialect ++ behind)).head?, isWordPart c = false)
      (hbehind : ∀ c ∈ behind, Text.isSeparator c = true) :
      QualifiedHead dialect name (words ++ (gap ++ (name.text dialect ++ behind)))

/-- The references to the table of the name, with what follows them. -/
inductive QualifiedReference (dialect : Dialect) (name : QualifiedName) : List Char → Prop
  | intro {link gap rest : List Char} (hlink : Spells ["REFERENCES"] link)
      (hgap : ∀ c ∈ gap, Text.isSeparator c = true)
      (hend : ∀ c ∈ (gap ++ (name.text dialect ++ rest)).head?, isWordPart c = false)
      (hrest : ∀ c ∈ rest.head?, isQuote c = false ∧ isWordPart c = false) :
      QualifiedReference dialect name (link ++ (gap ++ (name.text dialect ++ rest)))

/-- The definitions of columns that start as that of the given one and refer to the table of the
name. -/
inductive QualifiedColumn (dialect : Dialect) (name : QualifiedName) (column : Column) :
    List Char → Prop
  | intro {start reference : List Char} (hstart : ColumnStart dialect column start)
      (hnone : ∀ token ∈ modifierTokens dialect start, token.isKeyword ["REFERENCES"] = false)
      (hreference : QualifiedReference dialect name reference)
      (hspace : ∀ c ∈ reference.head?, Text.isSeparator c = true) :
      QualifiedColumn dialect name column (start ++ reference)

/-- The constraints that refer the listed columns to the table of the name. -/
inductive QualifiedConstraint (dialect : Dialect) (name : QualifiedName) (columns : List Char) :
    List Char → Prop
  | intro {words gap reference : List Char} (hwords : Spells ["FOREIGN", "KEY"] words)
      (hgap : ∀ c ∈ gap, Text.isSeparator c = true) (hcolumns : Balanced columns)
      (hnone : ∀ token ∈ tokens dialect columns, token.isKeyword ["REFERENCES"] = false)
      (hreference : QualifiedReference dialect name reference) :
      QualifiedConstraint dialect name columns (foreignKeyStart words gap columns ++ reference)

section Read

variable {dialect : Dialect} {name : QualifiedName}

theorem QualifiedHead.headName?_eq {head : List Char} (hhead : QualifiedHead dialect name head)
    (h : name.Regular) : headName? dialect head = some name.found := by
  cases hhead with
  | @intro keywords words gap behind hkeywords hwords hfirst hgap hend hbehind =>
      obtain ⟨front, htokens, hlength, hstarts, -⟩ := hwords.exists_tokens dialect 0 hend
      obtain ⟨first, others, hfirstTokens, hisName, hobject, hkeyword, hflat⟩ :=
        h.exists_tokensAt dialect (0 + words.length + gap.length)
      have hclosed := (h.seamless_text dialect ';' (by decide)).contained.balanced.openQuote_eq
      have hbreak : ∀ c ∈ (behind ++ []).head?, isQuote c = false ∧ isWordPart c = false :=
        isBreak_gap hbehind fun _ => by simp
      have hnone := tokensAt_gap dialect
        (0 + words.length + gap.length + (name.text dialect).length) hbehind []
      rw [List.append_nil] at hbreak hnone
      have hall : tokens dialect (words ++ (gap ++ (name.text dialect ++ behind)))
          = front ++ first :: others := by
        rw [tokens_eq_tokensAt, htokens, tokensAt_gap dialect _ hgap,
          tokensAt_append dialect hclosed hbreak, hfirstTokens, hnone, tokensAt_nil, List.append_nil]
      have hguard : startsWith ["IF"] (first :: others) = false := by
        rw [startsWith, hkeyword "IF" (by decide), Bool.false_and]
      have hrest : others.all (·.kind != .opening) = true :=
        List.all_eq_true.mpr fun other hother => by simpa using hflat other hother
      rw [headName?, hall, nameTokens_of_startsWith hkeywords hlength (hstarts _) hguard]
      simp only [hisName, hrest, Bool.and_self, if_true, hobject]

/-- A head with a qualified name gives the table the name that is found. -/
theorem QualifiedHead.heading {head : List Char} (hhead : QualifiedHead dialect name head)
    (h : name.Regular) : Heading dialect name.found head := by
  have hnamed := hhead.headName?_eq h
  cases hhead with
  | @intro keywords words gap behind hkeywords hwords hfirst hgap hend hbehind =>
      have hreserved : Text.IsReserved ';' := by decide
      have hblank : Text.isBlank ';' = false := by decide
      have hletters : ∀ word ∈ keywords, ∀ c ∈ word.toList, ¬ Text.IsReserved c := by
        rcases hkeywords with rfl | rfl <;> decide
      have hseamless := (Seamless.of_spells hreserved hblank hwords hletters).append
        ((Seamless.of_isSeparator hblank hgap).append
          ((h.seamless_text dialect ';' hreserved).append
            (Seamless.of_isSeparator hblank hbehind)))
      have hne : words ≠ [] := by
        rcases hkeywords with rfl | rfl <;> exact hwords.ne_nil
      refine ⟨hseamless.contained, ?_, hnamed⟩
      rwa [List.head?_append_of_ne_nil _ hne]

theorem QualifiedReference.exists_targets {reference : List Char}
    (hreference : QualifiedReference dialect name reference) (h : name.Regular) :
    ∃ link text columns, reference = link ++ text ∧ Spells ["REFERENCES"] link ∧
      Targets dialect text ⟨name.found, columns⟩ := by
  cases hreference with
  | @intro link gap rest hlink hgap hend hrest =>
      obtain ⟨first, others, htokens, hisName, hobject, -, -⟩ :=
        h.exists_tokensAt dialect (0 + gap.length)
      have hclosed :=
        (h.seamless_text dialect ',' (by decide)).contained.balanced.openQuote_eq
      have hall : tokens dialect (gap ++ (name.text dialect ++ rest))
          = first :: (others
            ++ tokensAt dialect (0 + gap.length + (name.text dialect).length) rest) := by
        rw [tokens_eq_tokensAt, tokensAt_gap dialect _ hgap,
          tokensAt_append dialect hclosed hrest, htokens]
        rfl
      have htargets := Targets.of_tokens hend hall hisName
      rw [hobject] at htargets
      exact ⟨link, _, _, rfl, hlink, htargets⟩

/-- A definition with a qualified name gives a column that refers to the table that is found. -/
theorem QualifiedColumn.exists_readDefinition {column : Column} {text : List Char}
    (hcolumn : QualifiedColumn dialect name column text) (h : name.Regular) :
    ∃ read, readDefinition dialect text = .column read ∧ read.name = column.name ∧
      read.foreignTable = some name.found := by
  cases hcolumn with
  | intro hstart hnone hreference hspace =>
      obtain ⟨link, target, targets, rfl, hlink, htargets⟩ := hreference.exists_targets h
      cases hlink with
      | @cons _ _ gap w _ hgap hne hw hupper hend hnil =>
          cases hnil
          have hgapNe : gap ≠ [] := by
            rintro rfl
            obtain ⟨c, rest, rfl⟩ := List.exists_cons_of_ne_nil hne
            have hpart := (Sql.isWordPart_iff.mp (hw c List.mem_cons_self)).2.2.2
            rw [hspace c rfl] at hpart
            cases hpart
          have hmodifier : Modifier w target :=
            .of_upper hupper (by decide) (by decide) (by decide) htargets.head
          have hspelled : Spells ["REFERENCES"] w := by
            simpa using @Spells.cons "REFERENCES" [] [] w [] (List.forall_mem_nil _) hne hw hupper
              (by simp) .nil
          obtain ⟨read, hread, hreadName, -, -, htable⟩ :=
            hstart.exists_readDefinition hgap hgapNe hmodifier
          refine ⟨read, ?_, hreadName, ?_⟩
          · rw [← hread]
            simp
          · rw [htable, reference?_append_of_not_isKeyword hnone, htargets.reference?_eq hspelled]
            rfl

theorem QualifiedConstraint.exists_readDefinition {columns text : List Char}
    (hconstraint : QualifiedConstraint dialect name columns text) (h : name.Regular) :
    ∃ targets, readDefinition dialect text
      = .foreignKeys (pairColumns name.found (listed dialect columns) targets) := by
  cases hconstraint with
  | intro hwords hgap hcolumns hnone hreference =>
      obtain ⟨link, target, targets, rfl, hlink, htargets⟩ := hreference.exists_targets h
      exact ⟨targets, readDefinition_foreignKey hwords hgap hcolumns hnone hlink htargets⟩

end Read

def lastTarget? (keys : List ForeignKey) (column : Column) : Option String :=
  (keys.reverse.find? fun key => Text.sameFold column.name key.column).map (·.table)

theorem targetTable?_eq (keys : List ForeignKey) (column : Column) :
    targetTable? keys column = (lastTarget? keys column).or column.foreignTable := rfl

theorem lastTarget?_append (a b : List ForeignKey) (column : Column) :
    lastTarget? (a ++ b) column = (lastTarget? b column).or (lastTarget? a column) := by
  rw [lastTarget?, List.reverse_append, List.find?_append, Option.map_or]
  rfl

theorem lastTarget?_eq_none_of_absent {keys : List ForeignKey} {column : Column}
    (h : ∀ key ∈ keys, Text.sameFold column.name key.column = false) :
    lastTarget? keys column = none := by
  rw [lastTarget?, Option.map_eq_none_iff, List.find?_eq_none]
  intro key hkey
  rw [h key (List.mem_reverse.mp hkey)]
  exact Bool.false_ne_true

/-- Keys that all refer to one table refer to it for the columns that they are on. -/
theorem lastTarget?_pairColumns (table : String) (names targets : List String) (column : Column) :
    lastTarget? (pairColumns table names targets) column
      = if names.any (Text.sameFold column.name) then some table else none := by
  have hcolumns := column_pairColumns table names targets
  cases hfind : (pairColumns table names targets).reverse.find? fun key =>
      Text.sameFold column.name key.column with
  | some key =>
      have hkey := List.mem_reverse.mp (List.mem_of_find?_eq_some hfind)
      have hsame : Text.sameFold column.name key.column = true :=
        List.find?_some (p := fun key : ForeignKey => Text.sameFold column.name key.column) hfind
      have hlisted : names.any (Text.sameFold column.name) = true := by
        rw [← hcolumns]
        exact List.any_eq_true.mpr ⟨key.column, List.mem_map_of_mem hkey, hsame⟩
      rw [lastTarget?, hfind, if_pos hlisted, Option.map_some, table_of_mem_pairColumns hkey]
  | none =>
      have hlisted : ¬ names.any (Text.sameFold column.name) = true := by
        rw [← hcolumns, List.any_eq_true]
        rintro ⟨name, hname, hsame⟩
        obtain ⟨key, hkey, rfl⟩ := List.mem_map.mp hname
        exact List.find?_eq_none.mp hfind key (List.mem_reverse.mpr hkey) hsame
      rw [lastTarget?, hfind, if_neg hlisted]
      rfl

theorem targetTable?_insert (front keys back : List ForeignKey) (column : Column) :
    targetTable? (front ++ (keys ++ back)) column = targetTable? (front ++ back) column ∨
      targetTable? (front ++ (keys ++ back)) column = lastTarget? keys column := by
  simp only [targetTable?_eq, lastTarget?_append]
  cases lastTarget? back column with
  | some table => exact Or.inl rfl
  | none =>
      cases lastTarget? keys column with
      | some table => exact Or.inr rfl
      | none => exact Or.inl rfl

/-! ### Places of names

The head of a statement, the definition of a column and a constraint each put what they read of a
name in another place of the table. One statement covers all of them, by the place that the script
has the name for.
-/

/-- Where a script has the name of a table: in the head of its statement, or in the reference of one
of its columns. -/
inductive NamePlace
  | head
  | reference (i : Nat)

def NamePlace.read? (table : Table) : NamePlace → Option String
  | .head => some table.name
  | .reference i => table.columns[i]?.bind (·.foreignTable)

/-- Whether the script creates a table with a definition in the part, and the other definitions name
the tables that they refer to. -/
structure TableScript.Has (script : TableScript) (dialect : Dialect) (plain : String)
    (front : List (List Char)) (part : List Char) (back : List (List Char)) : Prop where
  creates : script.Creates dialect plain
  name_ne : plain ≠ ""
  parts : script.parts = front ++ part :: back
  others : ({ script with parts := front ++ back }.creation dialect plain).Named

/-- The scripts with the qualified name at the place: in the head of the statement, in the definition
of a column, or in a constraint on it, and in no other constraint that decides about the column. -/
inductive QualifiedAt (dialect : Dialect) (name : QualifiedName) (script : TableScript) :
    NamePlace → Prop
  | head {head : List Char} {plain : String} (hscript : { script with head }.Creates dialect plain)
      (hdefinitions : script.definitionTexts ≠ []) (hnamed : (script.creation dialect plain).Named)
      (hhead : QualifiedHead dialect name script.head) : QualifiedAt dialect name script .head
  | column {plain : String} {front back : List (List Char)} {part : List Char} {column : Column}
      (hscript : script.Has dialect plain front part back)
      (hdefinition : QualifiedColumn dialect name column (Text.trim part))
      (hfree : ∀ key ∈ TableScript.foreignKeysIn dialect (front ++ back),
        Text.sameFold column.name key.column = false) :
      QualifiedAt dialect name script (.reference (TableScript.columnsIn dialect front).length)
  | constraint {plain : String} {front back : List (List Char)} {part columns : List Char} {i : Nat}
      {column : Column} (hscript : script.Has dialect plain front part back)
      (hdefinition : QualifiedConstraint dialect name columns (Text.trim part))
      (hcolumn : (script.creation dialect plain).columns[i]? = some column)
      (hlisted : (listed dialect columns).any (Text.sameFold column.name) = true)
      (hlast : ∀ key ∈ TableScript.foreignKeysIn dialect back,
        Text.sameFold column.name key.column = false) :
      QualifiedAt dialect name script (.reference i)

section Places

variable {dialect : Dialect} {plain text : String} {script : TableScript} {name : QualifiedName}

/-- A statement with the name in its head creates a table of this name exactly if it resolves. -/
theorem QualifiedHead.exists_parse_iff {head : List Char}
    (hscript : { script with head }.Creates dialect plain) (htext : script.Spells text)
    (halone : script.Alone dialect) (hdefinitions : script.definitionTexts ≠ [])
    (hnamed : (script.creation dialect plain).Named) (hname : name.Regular)
    (hhead : QualifiedHead dialect name script.head) :
    (∃ table, parse text (some dialect.name) = .ok [table] ∧
      NamePlace.read? table .head = some (.ofList name.table.letters)) ↔ name.Resolves := by
  have hcreates : script.Creates dialect name.found :=
    ⟨hhead.heading hname, hscript.parts, hscript.options, hscript.before, hscript.after⟩
  by_cases hnone : name.found = ""
  · -- the statement is passed over
    rw [hnone] at hcreates
    have hgives := hcreates.gives_nil htext
    rw [TableScript.Gives, halone.before, halone.after] at hgives
    refine iff_of_false ?_ fun hresolves => ?_
    · rintro ⟨table, hread, -⟩
      rw [hread] at hgives
      cases hgives
    · have hfound := (QualifiedName.found_eq_iff hname).mpr hresolves
      exact hname.table.ofList_ne (hfound.symm.trans hnone)
  · have hnamed' : (script.creation dialect name.found).Named := hnamed
    rw [hcreates.exists_parse_iff htext halone hnone hdefinitions fun table =>
        NamePlace.read? table .head = some (.ofList name.table.letters), and_iff_right hnamed',
      NamePlace.read?, Option.some.injEq]
    exact QualifiedName.found_eq_iff hname

/-- Where only the target of one column may be missing, this column is read with a reference to the
given table exactly if it is its target. -/
theorem exists_parse_reference_iff (hscript : script.Creates dialect plain)
    (htext : script.Spells text) (halone : script.Alone dialect) (hne : plain ≠ "")
    (hdefinitions : script.definitionTexts ≠ []) {target given : String} (hgiven : given ≠ "")
    (hnamed : ∀ column ∈ (script.creation dialect plain).columns,
      targetTable? (script.creation dialect plain).foreignKeys column = some "" → target = "")
    {i : Nat} {column : Column} (hcolumn : (script.creation dialect plain).columns[i]? = some column)
    (htarget : targetTable? (script.creation dialect plain).foreignKeys column = some target) :
    (∃ table, parse text (some dialect.name) = .ok [table] ∧
      NamePlace.read? table (.reference i) = some given) ↔ target = given := by
  have hread : NamePlace.read? (script.creation dialect plain).table (.reference i)
      = some target := by
    rw [NamePlace.read?, Creation.table, List.getElem?_map, hcolumn]
    exact (Creation.foreignTable_settled _ column).trans htarget
  rw [hscript.exists_parse_iff htext halone hne hdefinitions fun table =>
    NamePlace.read? table (.reference i) = some given, hread, Option.some.injEq]
  refine and_iff_right_of_imp ?_
  rintro rfl other hother hnone
  exact hgiven (hnamed other hother hnone)

section Definition

variable {front back : List (List Char)} {part : List Char} {column : Column}

theorem TableScript.Has.named (h : script.Has dialect plain front part back) :
    ∀ column ∈ columnsIn dialect front ++ columnsIn dialect back,
      targetTable? (foreignKeysIn dialect front ++ foreignKeysIn dialect back) column ≠ some "" := by
  rw [← columnsIn_append, ← foreignKeysIn_append]
  exact h.others

/-- A definition of a column with the name refers to this table exactly if the name resolves. -/
theorem QualifiedColumn.exists_parse_iff (hscript : script.Has dialect plain front part back)
    (htext : script.Spells text) (halone : script.Alone dialect) (hname : name.Regular)
    (hdefinition : QualifiedColumn dialect name column (Text.trim part))
    (hfree : ∀ key ∈ TableScript.foreignKeysIn dialect (front ++ back),
      Text.sameFold column.name key.column = false) :
    (∃ table, parse text (some dialect.name) = .ok [table] ∧
      NamePlace.read? table (.reference (TableScript.columnsIn dialect front).length)
        = some (.ofList name.table.letters)) ↔ name.Resolves := by
  obtain ⟨read, hread, hreadName, hreadTable⟩ := hdefinition.exists_readDefinition hname
  have hpart := TableScript.ne_nil_of_readDefinition hread Definition.noConfusion
  have hdefinitions := TableScript.definitionTexts_ne_nil_of_parts hscript.parts hpart
  have hcolumns := TableScript.columns_creation_of_parts hscript.parts hpart hread plain
  have hkeys : (script.creation dialect plain).foreignKeys
      = TableScript.foreignKeysIn dialect front ++ TableScript.foreignKeysIn dialect back := by
    rw [TableScript.foreignKeys_creation_of_parts hscript.parts hpart, hread]
    rfl
  have htarget : targetTable? (script.creation dialect plain).foreignKeys read
      = some name.found := by
    rw [← hreadName, TableScript.foreignKeysIn_append, ← hkeys] at hfree
    rw [targetTable?_eq, lastTarget?_eq_none_of_absent hfree, hreadTable]
    rfl
  refine (exists_parse_reference_iff hscript.creates htext halone hscript.name_ne hdefinitions
    hname.table.ofList_ne ?_ ?_ htarget).trans (QualifiedName.found_eq_iff hname)
  · intro other hother hmissing
    have hothers := hscript.named
    rw [← hkeys] at hothers
    rw [hcolumns] at hother
    rcases List.mem_append.mp hother with hfront | hother
    · exact absurd hmissing (hothers other (List.mem_append_left _ hfront))
    rcases List.mem_cons.mp hother with rfl | hback
    · exact Option.some.inj (htarget.symm.trans hmissing)
    · exact absurd hmissing (hothers other (List.mem_append_right _ hback))
  · rw [hcolumns, List.getElem?_append_right (Nat.le_refl _), Nat.sub_self]
    rfl

/-- A constraint with the name refers its columns to this table exactly if the name resolves. -/
theorem QualifiedConstraint.exists_parse_iff {columns : List Char} {i : Nat}
    (hscript : script.Has dialect plain front part back) (htext : script.Spells text)
    (halone : script.Alone dialect) (hname : name.Regular)
    (hdefinition : QualifiedConstraint dialect name columns (Text.trim part))
    (hcolumn : (script.creation dialect plain).columns[i]? = some column)
    (hlisted : (listed dialect columns).any (Text.sameFold column.name) = true)
    (hlast : ∀ key ∈ TableScript.foreignKeysIn dialect back,
      Text.sameFold column.name key.column = false) :
    (∃ table, parse text (some dialect.name) = .ok [table] ∧
      NamePlace.read? table (.reference i) = some (.ofList name.table.letters)) ↔
      name.Resolves := by
  obtain ⟨targets, hread⟩ := hdefinition.exists_readDefinition hname
  set keys := pairColumns name.found (listed dialect columns) targets with hkeysDef
  have hpart := TableScript.ne_nil_of_readDefinition hread Definition.noConfusion
  have hdefinitions := TableScript.definitionTexts_ne_nil_of_parts hscript.parts hpart
  have hcolumns : (script.creation dialect plain).columns
      = TableScript.columnsIn dialect front ++ TableScript.columnsIn dialect back := by
    rw [Creation.columns, TableScript.definitions_creation_of_parts hscript.parts hpart,
      List.filterMap_append, hread]
    rfl
  have hkeys : (script.creation dialect plain).foreignKeys
      = TableScript.foreignKeysIn dialect front
        ++ (keys ++ TableScript.foreignKeysIn dialect back) := by
    rw [TableScript.foreignKeys_creation_of_parts hscript.parts hpart, hread]
    rfl
  have htarget : targetTable? (script.creation dialect plain).foreignKeys column
      = some name.found := by
    rw [hkeys, targetTable?_eq, lastTarget?_append, lastTarget?_append,
      lastTarget?_eq_none_of_absent hlast, hkeysDef, lastTarget?_pairColumns, if_pos hlisted]
    rfl
  refine (exists_parse_reference_iff hscript.creates htext halone hscript.name_ne hdefinitions
    hname.table.ofList_ne ?_ hcolumn htarget).trans (QualifiedName.found_eq_iff hname)
  intro other hother hmissing
  rw [hcolumns] at hother
  rw [hkeys] at hmissing
  rcases targetTable?_insert (TableScript.foreignKeysIn dialect front) keys
    (TableScript.foreignKeysIn dialect back) other with hsame | hown
  · exact absurd (hsame.symm.trans hmissing) (hscript.named other hother)
  · rw [hown, hkeysDef, lastTarget?_pairColumns] at hmissing
    split_ifs at hmissing
    exact Option.some.inj hmissing

end Definition

/-- A qualified name is read as its table, wherever it stands, exactly if it resolves. -/
theorem qualified_name_iff {place : NamePlace} (hplace : QualifiedAt dialect name script place)
    (hname : name.Regular) (htext : script.Spells text) (halone : script.Alone dialect) :
    (∃ table, parse text (some dialect.name) = .ok [table] ∧
      place.read? table = some (.ofList name.table.letters)) ↔ name.Resolves := by
  cases hplace with
  | head hscript hdefinitions hnamed hhead =>
      exact hhead.exists_parse_iff hscript htext halone hdefinitions hnamed hname
  | column hscript hdefinition hfree =>
      exact hdefinition.exists_parse_iff hscript htext halone hname hfree
  | constraint hscript hdefinition hcolumn hlisted hlast =>
      exact hdefinition.exists_parse_iff hscript htext halone hname hcolumn hlisted hlast

end Places

/-- A table with a column that refers to one of a schema, both bare. -/
def referringScript : TableScript where
  head := "CREATE TABLE posts ".toList
  parts := ["id INT".toList, " author INT NOT NULL REFERENCES public.users (id) ".toList]

def referringText : String :=
  "CREATE TABLE posts (id INT, author INT NOT NULL REFERENCES public.users (id) )"

theorem qualified_name_bare :
    referringScript.Spells referringText ∧ ∃ table,
      parse referringText (some "postgres") = .ok [table] ∧
        NamePlace.read? table (.reference 1) = some "users" := by
  have hscript : referringScript.Creates .postgres "posts" :=
    ⟨by decide +kernel, by decide +kernel, by decide, .blank (by decide), by decide⟩
  have htext : referringScript.Spells referringText := by decide +kernel
  have hreference : QualifiedReference .postgres
      ⟨⟨"public".toList, false⟩, ⟨"users".toList, false⟩⟩
      " REFERENCES public.users (id)".toList :=
    @QualifiedReference.intro .postgres ⟨⟨"public".toList, false⟩, ⟨"users".toList, false⟩⟩
      " REFERENCES".toList [' '] " (id)".toList spells_references (by decide) (by decide) (by decide)
  have hdefinition : QualifiedColumn .postgres
      ⟨⟨"public".toList, false⟩, ⟨"users".toList, false⟩⟩
      { name := "author", type := "INT", isNullable := false }
      (Text.trim " author INT NOT NULL REFERENCES public.users (id) ".toList) := by
    have hsplit : Text.trim " author INT NOT NULL REFERENCES public.users (id) ".toList
        = "author INT NOT NULL".toList ++ " REFERENCES public.users (id)".toList := by
      decide +kernel
    rw [hsplit]
    exact .intro (by decide +kernel) (by decide +kernel) hreference (by decide)
  have hplace : QualifiedAt .postgres ⟨⟨"public".toList, false⟩, ⟨"users".toList, false⟩⟩
      referringScript (.reference 1) :=
    @QualifiedAt.column .postgres _ referringScript "posts" ["id INT".toList] [] _ _
      ⟨hscript, by decide, rfl, by decide +kernel⟩ hdefinition (by decide +kernel)
  exact ⟨htext, (qualified_name_iff hplace ⟨by decide, by decide⟩ htext ⟨rfl, rfl⟩).mpr
    (Or.inl ⟨rfl, rfl⟩)⟩

/-- A table whose name and schema are both quoted. -/
def quotedText : String := "CREATE TABLE \"public\".\"users\" (c INTEGER)"

/-- The table gets the name of the schema. -/
theorem qualified_name_quoted :
    quotedText.toList = "CREATE TABLE ".toList
      ++ (QualifiedName.text .postgres ⟨⟨"public".toList, true⟩, ⟨"users".toList, true⟩⟩
        ++ " (c INTEGER)".toList) ∧
      parse quotedText (some "postgres") = .ok [{
        name := "public"
        columns := [{ name := "c", type := "INTEGER" }] }] := by
  refine ⟨?_, ?_⟩ <;> decide +kernel

end RelSchema.Ddl
