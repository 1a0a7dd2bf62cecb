import RelSchema.Proofs.Ddl.Modified
import RelSchema.Proofs.Ddl.Reference
import RelSchema.Proofs.Ddl.TableScript

/-!
# Foreign key constraints

A foreign key constraint pairs its columns with those of another table by position; where the other
list is shorter or absent, a column is paired with none. Constraints are applied in order and by
name, so the last pair on a name decides what its columns refer to. Nothing else of the table
changes.
-/

namespace RelSchema.Ddl

open Sql (Token Balanced SelfContained Trimmed isWordPart isQuote isBreak_gap isBreak_opening)
open Text (IsReserved)

theorem column_pairColumns (table : String) (names targets : List String) :
    (pairColumns table names targets).map (·.column) = names := by
  induction names generalizing targets with
  | nil => rfl
  | cons name names ih => rw [pairColumns, List.map_cons, ih]

theorem table_of_mem_pairColumns {table : String} {names targets : List String} {key : ForeignKey}
    (h : key ∈ pairColumns table names targets) : key.table = table := by
  induction names generalizing targets with
  | nil => cases h
  | cons name names ih =>
      rcases List.mem_cons.mp h with rfl | h
      · rfl
      · exact ih h

theorem pairColumns_append_cons (table : String) (front : List String) (name : String)
    (back targets : List String) :
    pairColumns table (front ++ name :: back) targets
      = pairColumns table front targets ++ ⟨name, table, targets[front.length]?⟩
          :: pairColumns table back (targets.drop (front.length + 1)) := by
  induction front generalizing targets with
  | nil => simp [pairColumns, List.head?_eq_getElem?]
  | cons first front ih =>
      have htargets : ∀ n, targets.tail[n]? = targets[n + 1]? := fun n => List.getElem?_tail
      rw [List.cons_append, pairColumns, ih, htargets, ← List.drop_one, List.drop_drop, pairColumns,
        List.drop_one, List.length_cons, Nat.add_comm 1]
      rfl

theorem foldl_underForeignKey_of_absent {keys : List ForeignKey} {column : Column}
    (h : ∀ key ∈ keys, Text.sameFold column.name key.column = false) :
    keys.foldl underForeignKey column = column := by
  induction keys with
  | nil => rfl
  | cons key keys ih =>
      have hkey : underForeignKey column key = column :=
        if_neg (by rw [h key List.mem_cons_self]; exact Bool.false_ne_true)
      rw [List.foldl_cons, hkey, ih fun other hother => h other (List.mem_cons_of_mem key hother)]

theorem foldl_underForeignKey_of_last {front back : List ForeignKey} {key : ForeignKey}
    {column : Column} (hkey : Text.sameFold column.name key.column = true)
    (hback : ∀ other ∈ back, Text.sameFold column.name other.column = false) :
    (front ++ key :: back).foldl underForeignKey column
      = (front.foldl underForeignKey column).asForeignKey key.table key.key := by
  have hname := name_foldl_underForeignKey front column
  have hstep : underForeignKey (front.foldl underForeignKey column) key
      = (front.foldl underForeignKey column).asForeignKey key.table key.key :=
    if_pos (by rw [hname]; exact hkey)
  rw [List.foldl_append, List.foldl_cons, hstep, foldl_underForeignKey_of_absent]
  intro other hother
  have hsame := hback other hother
  rwa [← hname] at hsame

/-- A column that is not foreign by itself is so exactly if a key is on it. -/
theorem isForeignKey_foldl_underForeignKey {keys : List ForeignKey} {column : Column}
    (hcolumn : column.isForeignKey = false) :
    (keys.foldl underForeignKey column).isForeignKey = true ↔
      ∃ key ∈ keys, Text.sameFold column.name key.column = true := by
  -- the last key decides, so keys are taken off the end
  induction keys using List.reverseRecOn with
  | nil => simp [hcolumn]
  | append_singleton keys key ih =>
      rw [List.foldl_append, List.foldl_cons, List.foldl_nil, underForeignKey,
        name_foldl_underForeignKey]
      by_cases hsame : Text.sameFold column.name key.column = true
      · rw [if_pos hsame]
        exact iff_of_true rfl ⟨key, by simp, hsame⟩
      · rw [if_neg hsame, ih]
        simp [hsame]

/-- A foreign key constraint: its columns, the table that it refers to, and possibly columns of that
table, all in the quotes of the dialect, with the words and the gaps between them. -/
structure LinkConstraint where
  before : List Char := []
  words : List Char := "FOREIGN KEY".toList
  gap : List Char := [' ']
  columns : List ListedName
  link : List Char := " REFERENCES".toList
  linkGap : List Char := [' ']
  table : String
  targets? : Option (List Char × List ListedName) := none
  after : List Char := []

namespace LinkConstraint

def names (constraint : LinkConstraint) : List String :=
  constraint.columns.map (·.name)

/-- The columns that the constraint refers to, none if it lists none. -/
def targetNames (constraint : LinkConstraint) : List String :=
  match constraint.targets? with
  | none => []
  | some targets => targets.2.map (·.name)

/-- The constraint behind the word for references. -/
def targetText (dialect : Dialect) (constraint : LinkConstraint) : List Char :=
  constraint.linkGap ++ ((Naming.quoteIdentifier dialect constraint.table).toList ++
    match constraint.targets? with
    | none => []
    | some targets => targets.1 ++ ('(' :: namesText dialect targets.2 ++ [')']))

def text (dialect : Dialect) (constraint : LinkConstraint) : List Char :=
  foreignKeyStart constraint.words constraint.gap (namesText dialect constraint.columns) ++
    (constraint.link ++ constraint.targetText dialect)

def part (dialect : Dialect) (constraint : LinkConstraint) : List Char :=
  constraint.before ++ (constraint.text dialect ++ constraint.after)

/-- Whether the words of a constraint are those of foreign keys with only spaces between its parts,
and its table has a name. -/
structure Regular (constraint : LinkConstraint) : Prop where
  words : Spells ["FOREIGN", "KEY"] constraint.words
  first : ∀ c ∈ constraint.words.head?, Text.isBlank c = false
  gap : ∀ c ∈ constraint.gap, Text.isSeparator c = true
  columns : ∀ entry ∈ constraint.columns, entry.Spaced
  link : Spells ["REFERENCES"] constraint.link
  linkGap : ∀ c ∈ constraint.linkGap, Text.isSeparator c = true
  table_ne : constraint.table ≠ ""
  targets : ∀ targets ∈ constraint.targets?,
    (∀ c ∈ targets.1, Text.isSeparator c = true) ∧ ∀ entry ∈ targets.2, entry.Spaced
  before : ∀ c ∈ constraint.before, Text.isBlank c = true
  after : ∀ c ∈ constraint.after, Text.isBlank c = true

def keys (constraint : LinkConstraint) : List ForeignKey :=
  pairColumns constraint.table constraint.names constraint.targetNames

section Regular

variable {constraint : LinkConstraint} (dialect : Dialect) (h : constraint.Regular)

include h

theorem targets_targetText :
    Targets dialect (constraint.targetText dialect) ⟨constraint.table, constraint.targetNames⟩ := by
  refine ⟨?_, fun position => ?_⟩
  · refine head?_append_of (fun c hc => ?_) fun c hc => ?_
    · simp [isWordPart, h.linkGap c (List.mem_of_mem_head? hc)]
    · rw [toList_quoteIdentifier] at hc
      cases hc
      simp [isWordPart, isQuote_quoteChar]
  · rw [targetText, tokensAt_gap dialect position h.linkGap, toList_quoteIdentifier]
    unfold targetNames
    cases htargets : constraint.targets? with
    | none =>
        obtain ⟨hname, htable⟩ := objectName_runToken dialect (position + constraint.linkGap.length)
          constraint.table.toList _
        exact ⟨_, _, tokensAt_name dialect _ _ (by simp), hname, by simpa using htable, rfl⟩
    | some targets =>
        obtain ⟨hgap, hnames⟩ := h.targets targets htargets
        have hinner := (seamless_namesText dialect hnames).contained.balanced
        have hend : ∀ c ∈ (targets.1 ++ ('(' :: namesText dialect targets.2 ++ [')'])).head?,
            c ≠ dialect.quoteChar := fun c hc =>
          ne_quoteChar_of_not_isQuote dialect (isBreak_gap hgap (fun _ => isBreak_opening _) c hc).1
        obtain ⟨hname, htable⟩ := objectName_runToken dialect (position + constraint.linkGap.length)
          constraint.table.toList _
        refine ⟨_, _, tokensAt_name dialect _ _ hend, hname, by simpa using htable, ?_⟩
        exact (listedNames_parenthesized dialect _ hgap hinner []).trans
          (listed_namesText dialect hnames)

theorem readDefinition_text :
    readDefinition dialect (constraint.text dialect) = .foreignKeys constraint.keys := by
  have hcolumns := (seamless_namesText dialect h.columns).contained.balanced
  rw [text, readDefinition_foreignKey h.words h.gap hcolumns
    (not_isKeyword_of_mem_namesText dialect h.columns 0) h.link (targets_targetText dialect h),
    listed_namesText dialect h.columns]
  rfl

theorem seamless_part : Seamless ',' (constraint.part dialect) := by
  have hblank : Text.isBlank ',' = false := by decide
  have hreserved : IsReserved ',' := by decide
  have hgroup : ∀ names : List ListedName, (∀ entry ∈ names, entry.Spaced) →
      Seamless ',' ('(' :: namesText dialect names ++ [')']) := by
    intro names hnames
    have hinner := (seamless_namesText dialect hnames).contained
    exact .parenthesized ',' hinner.balanced hinner.unmarked
  have hstart : Seamless ',' (foreignKeyStart constraint.words constraint.gap
      (namesText dialect constraint.columns)) :=
    (Seamless.of_spells hreserved hblank h.words (by decide)).append
      ((Seamless.of_isSeparator hblank h.gap).append (hgroup _ h.columns))
  have htarget : Seamless ',' (constraint.targetText dialect) := by
    rw [targetText, toList_quoteIdentifier]
    refine (Seamless.of_isSeparator hblank h.linkGap).append
      ((Seamless.enclosed (isQuote_quoteChar dialect) _).append ?_)
    cases htargets : constraint.targets? with
    | none => exact ⟨.nil ',', fun c hc => by cases hc⟩
    | some targets =>
        obtain ⟨hgap, hnames⟩ := h.targets targets htargets
        exact (Seamless.of_isSeparator hblank hgap).append (hgroup _ hnames)
  exact (Seamless.of_blank hblank h.before).append
    ((hstart.append ((Seamless.of_spells hreserved hblank h.link (by decide)).append
      htarget)).append (Seamless.of_blank hblank h.after))

theorem trimmed_text : Trimmed (constraint.text dialect) := by
  have hwords := h.words.ne_nil
  refine ⟨by simp [text, foreignKeyStart, hwords], fun c hc => ?_, fun c hc => ?_⟩
  · refine h.first c ?_
    rwa [text, foreignKeyStart, List.append_assoc, List.head?_append_of_ne_nil _ hwords] at hc
  · have hquote : Text.isBlank dialect.quoteChar = false := by cases dialect <;> decide
    have hname : ∀ s : List Char, ∀ d ∈ (Naming.enclosed dialect.quoteChar s).getLast?,
        Text.isBlank d = false := by
      intro s d hd
      rw [Naming.enclosed, List.getLast?_append] at hd
      cases hd
      exact hquote
    rw [text, targetText, toList_quoteIdentifier, ← List.append_assoc, ← List.append_assoc,
      List.getLast?_append_of_ne_nil _ (by simp [Naming.enclosed])] at hc
    refine getLast?_append_of (hname _) ?_ c hc
    cases constraint.targets? with
    | none => simp
    | some targets =>
        intro d hd
        dsimp only at hd
        rw [← List.append_assoc, List.getLast?_append] at hd
        cases hd
        decide

theorem trim_part : Text.trim (constraint.part dialect) = constraint.text dialect := by
  have htrimmed := trimmed_text dialect h
  rw [part, ← List.append_assoc, Text.trim_of_blank h.before h.after,
    Text.trim_eq_self htrimmed.first htrimmed.last]

end Regular

/-! ### What a constraint says about a name

Keys are applied in order, each in place of those before it. So the last one on a name counts: that
of the last constraint that lists the name, at its last place there.
-/

def Lists (constraint : LinkConstraint) (name : String) : Prop :=
  ∃ listed ∈ constraint.names, Text.sameFold name listed = true

structure ListsLast (constraint : LinkConstraint) (name : String) (place : Nat) : Prop where
  here : ∃ listed, constraint.names[place]? = some listed ∧ Text.sameFold name listed = true
  last : ∀ later listed, place < later → constraint.names[later]? = some listed →
    Text.sameFold name listed = false

variable {constraint : LinkConstraint} {name : String}

theorem lists_iff :
    constraint.Lists name ↔ ∃ key ∈ constraint.keys, Text.sameFold name key.column = true := by
  have hcolumns : constraint.keys.map (·.column) = constraint.names := column_pairColumns _ _ _
  rw [Lists, ← hcolumns]
  simp only [List.mem_map, exists_exists_and_eq_and]

/-- The last place of a name gives the last of its keys. -/
theorem ListsLast.exists_keys_eq {place : Nat} (h : constraint.ListsLast name place) :
    ∃ front key back, constraint.keys = front ++ key :: back ∧
      Text.sameFold name key.column = true ∧ key.table = constraint.table ∧
      key.key = constraint.targetNames[place]? ∧
      ∀ other ∈ back, Text.sameFold name other.column = false := by
  obtain ⟨listed, hplace, hsame⟩ := h.here
  obtain ⟨hlength, hget⟩ := List.getElem?_eq_some_iff.mp hplace
  have hsplit : constraint.names
      = constraint.names.take place ++ listed :: constraint.names.drop (place + 1) := by
    rw [← hget, List.getElem_cons_drop, List.take_append_drop]
  have htake : (constraint.names.take place).length = place :=
    List.length_take_of_le (Nat.le_of_lt hlength)
  have hkeys := pairColumns_append_cons constraint.table (constraint.names.take place) listed
    (constraint.names.drop (place + 1)) constraint.targetNames
  rw [← hsplit, htake] at hkeys
  refine ⟨_, _, _, hkeys, hsame, rfl, rfl, fun other hother => ?_⟩
  have hmem : other.column ∈ constraint.names.drop (place + 1) := by
    have hcolumn := List.mem_map_of_mem (f := (·.column)) hother
    rwa [column_pairColumns] at hcolumn
  obtain ⟨i, hi⟩ := List.getElem?_of_mem hmem
  rw [List.getElem?_drop] at hi
  exact h.last _ _ (by omega) hi

end LinkConstraint

/-- Whether a column refers to what the constraints say: it is foreign exactly if one of them lists it
up to case, and then the last one that does tells its table, and its last place there its key. -/
structure PairedBy (constraints : List LinkConstraint) (column : Column) : Prop where
  foreign_iff : column.isForeignKey = true ↔
    ∃ constraint ∈ constraints, constraint.Lists column.name
  last : ∀ front constraint back place, constraints = front ++ constraint :: back →
    (∀ later ∈ back, ¬ later.Lists column.name) → constraint.ListsLast column.name place →
    column.foreignTable = some constraint.table ∧
      column.foreignKey = constraint.targetNames[place]?
  not_foreign : column.isForeignKey = false → column.foreignTable = none ∧ column.foreignKey = none

theorem exists_key_iff (constraints : List LinkConstraint) (name : String) :
    (∃ key ∈ constraints.flatMap LinkConstraint.keys, Text.sameFold name key.column = true) ↔
      ∃ constraint ∈ constraints, constraint.Lists name := by
  constructor
  · rintro ⟨key, hkey, hsame⟩
    obtain ⟨constraint, hconstraint, hmem⟩ := List.mem_flatMap.mp hkey
    exact ⟨constraint, hconstraint, LinkConstraint.lists_iff.mpr ⟨key, hmem, hsame⟩⟩
  · rintro ⟨constraint, hconstraint, hlists⟩
    obtain ⟨key, hmem, hsame⟩ := LinkConstraint.lists_iff.mp hlists
    exact ⟨key, List.mem_flatMap.mpr ⟨constraint, hconstraint, hmem⟩, hsame⟩

theorem absent_of_not_lists {constraints : List LinkConstraint} {name : String}
    (h : ∀ constraint ∈ constraints, ¬ constraint.Lists name) :
    ∀ key ∈ constraints.flatMap LinkConstraint.keys, Text.sameFold name key.column = false := by
  intro key hkey
  by_contra hsame
  obtain ⟨constraint, hconstraint, hlists⟩ :=
    (exists_key_iff constraints name).mp ⟨key, hkey, by simpa using hsame⟩
  exact h constraint hconstraint hlists

/-- The keys of constraints, one after another, pair a column that refers to nothing by itself. -/
theorem pairedBy_foldl (constraints : List LinkConstraint) {column : Column}
    (hcolumn : column.withoutReference = column) :
    PairedBy constraints
      ((constraints.flatMap LinkConstraint.keys).foldl underForeignKey column) := by
  have hmark : column.isForeignKey = false := by rw [← hcolumn]; rfl
  have hname := name_foldl_underForeignKey (constraints.flatMap LinkConstraint.keys) column
  have hforeign :=
    @isForeignKey_foldl_underForeignKey (constraints.flatMap LinkConstraint.keys) column hmark
  rw [exists_key_iff] at hforeign
  refine ⟨by rw [hname]; exact hforeign, ?_, fun hnot => ?_⟩
  · rintro front constraint back place rfl hback hplace
    rw [hname] at hback hplace
    obtain ⟨first, key, rest, hsplit, hsame, htable, hkey, hrest⟩ := hplace.exists_keys_eq
    have hlater : ∀ other ∈ rest ++ back.flatMap LinkConstraint.keys,
        Text.sameFold column.name other.column = false := fun other hother =>
      (List.mem_append.mp hother).elim (hrest other) (absent_of_not_lists hback other)
    have hall : (front ++ constraint :: back).flatMap LinkConstraint.keys
        = (front.flatMap LinkConstraint.keys ++ first)
          ++ key :: (rest ++ back.flatMap LinkConstraint.keys) := by
      rw [List.flatMap_append, List.flatMap_cons, hsplit]
      simp
    rw [hall, foldl_underForeignKey_of_last hsame hlater, htable, hkey]
    exact ⟨rfl, rfl⟩
  · have habsent : ∀ constraint ∈ constraints, ¬ constraint.Lists column.name := by
      intro constraint hconstraint hlists
      rw [hforeign.mpr ⟨constraint, hconstraint, hlists⟩] at hnot
      cases hnot
    rw [foldl_underForeignKey_of_absent (absent_of_not_lists habsent), ← hcolumn]
    exact ⟨rfl, rfl⟩

/-- Whether the definitions refer to no table. -/
structure Creation.Unlinked (creation : Creation) : Prop where
  no_keys : creation.foreignKeys = []
  no_references : ∀ column ∈ creation.columns, column.isForeignKey = false

instance (creation : Creation) : Decidable creation.Unlinked :=
  decidable_of_iff (creation.foreignKeys = [] ∧
    ∀ column ∈ creation.columns, column.isForeignKey = false)
    ⟨fun h => ⟨h.1, h.2⟩, fun h => ⟨h.no_keys, h.no_references⟩⟩

theorem withoutReference_of_readDefinition {dialect : Dialect} {text : List Char} {column : Column}
    (h : readDefinition dialect text = .column column) (hmark : column.isForeignKey = false) :
    column.withoutReference = column := by
  obtain ⟨name, type, rest, -, -, rfl⟩ := readDefinition_eq_column_iff.mp h
  unfold readColumn at hmark ⊢
  dsimp only at hmark ⊢
  cases hreference : reference? (typeEnd type.stop rest).2 with
  | none => rfl
  | some reference =>
      rw [hreference] at hmark
      cases hmark

theorem withoutReference_underDeclared (names : List String) (column : Column) :
    (underDeclared names column).withoutReference
      = underDeclared names column.withoutReference := by
  unfold underDeclared
  split_ifs with hempty hlisted hlisted' hlisted'
  · rfl
  · rfl
  · exact absurd hlisted hlisted'
  · exact absurd hlisted' hlisted
  · rfl

/-- The creation with definitions of foreign keys behind its own. -/
def Creation.withKeys (creation : Creation) (keys : List (List ForeignKey)) : Creation :=
  ⟨creation.name, creation.definitions ++ keys.map .foreignKeys⟩

namespace Creation

variable (creation : Creation) (keys : List (List ForeignKey))

theorem columns_withKeys : (creation.withKeys keys).columns = creation.columns := by
  have hnone : (keys.map Definition.foreignKeys).filterMap Definition.column? = [] := by
    rw [List.filterMap_map]
    exact List.filterMap_eq_nil_iff.mpr fun _ _ => rfl
  rw [columns, withKeys, List.filterMap_append, hnone, List.append_nil]
  rfl

theorem keyNames_withKeys : (creation.withKeys keys).keyNames = creation.keyNames := by
  have hnone : (keys.map Definition.foreignKeys).flatMap Definition.keyNames = [] := by
    rw [List.flatMap_map]
    exact List.flatMap_eq_nil_iff.mpr fun _ _ => rfl
  rw [keyNames, withKeys, List.flatMap_append, hnone, List.append_nil]
  rfl

theorem foreignKeys_withKeys :
    (creation.withKeys keys).foreignKeys = creation.foreignKeys ++ keys.flatten := by
  have hkeys : (keys.map Definition.foreignKeys).flatMap Definition.foreign = keys.flatten := by
    rw [List.flatMap_map]
    exact List.flatMap_id
  rw [foreignKeys, withKeys, List.flatMap_append, hkeys]
  rfl

variable {creation keys}

/-- But for references, the table is the one without the constraints. -/
theorem withoutReferences_table_withKeys (hplain : creation.foreignKeys = [])
    (hcolumns : ∀ column ∈ creation.columns, column.withoutReference = column) :
    (creation.withKeys keys).table.withoutReferences = creation.table := by
  have hsettled : ((creation.columns.map (creation.withKeys keys).settled).map
      Column.withoutReference) = creation.columns.map creation.settled := by
    rw [List.map_map]
    refine List.map_congr_left fun column hcolumn => ?_
    have hplainSettled : creation.settled column = underDeclared creation.keyNames column := by
      rw [settled, hplain]
      rfl
    rw [Function.comp_apply, withoutReference_settled, keyNames_withKeys,
      withoutReference_underDeclared, hcolumns column hcolumn, hplainSettled]
  rw [Table.withoutReferences, table, table, columns_withKeys, keyNames_withKeys]
  simp only [hsettled]
  rfl

end Creation

namespace TableScript

variable {script : TableScript} {dialect : Dialect} {name : String}
  {constraints : List LinkConstraint}

def linked (script : TableScript) (dialect : Dialect) (constraints : List LinkConstraint) :
    TableScript :=
  script.extended (constraints.map (LinkConstraint.part dialect))

theorem Creates.linked (h : script.Creates dialect name)
    (hconstraints : ∀ constraint ∈ constraints, constraint.Regular) :
    (script.linked dialect constraints).Creates dialect name := by
  refine h.extended fun part hpart => ?_
  obtain ⟨constraint, hconstraint, rfl⟩ := List.mem_map.mp hpart
  exact (LinkConstraint.seamless_part dialect (hconstraints constraint hconstraint)).contained

theorem definitionTexts_linked
    (hconstraints : ∀ constraint ∈ constraints, constraint.Regular) :
    (script.linked dialect constraints).definitionTexts
      = script.definitionTexts ++ constraints.map (LinkConstraint.text dialect) := by
  rw [linked, definitionTexts_extended, List.map_map]
  · congr 1
    exact List.map_congr_left fun constraint hconstraint =>
      LinkConstraint.trim_part dialect (hconstraints constraint hconstraint)
  · intro part hpart
    obtain ⟨constraint, hconstraint, rfl⟩ := List.mem_map.mp hpart
    have hregular := hconstraints constraint hconstraint
    rw [LinkConstraint.trim_part dialect hregular]
    exact (LinkConstraint.trimmed_text dialect hregular).ne_nil

theorem creation_linked (hconstraints : ∀ constraint ∈ constraints, constraint.Regular) :
    (script.linked dialect constraints).creation dialect name
      = (script.creation dialect name).withKeys (constraints.map LinkConstraint.keys) := by
  have hread : (constraints.map (LinkConstraint.text dialect)).map (readDefinition dialect)
      = (constraints.map LinkConstraint.keys).map .foreignKeys := by
    rw [List.map_map, List.map_map]
    exact List.map_congr_left fun constraint hconstraint =>
      LinkConstraint.readDefinition_text dialect (hconstraints constraint hconstraint)
  rw [creation, definitionTexts_linked hconstraints, List.map_append, hread]
  rfl

end TableScript

section References

variable {script : TableScript} {dialect : Dialect} {name text linkedText : String}
  {constraints : List LinkConstraint}

/-- With foreign key constraints behind its definitions, a table is what it is without them but for
the references of its columns, each of which is paired by the constraints. -/
theorem references_paired (hscript : script.Creates dialect name) (htext : script.Spells text)
    (hname : name ≠ "") (hdefinitions : script.definitionTexts ≠ [])
    (hplain : (script.creation dialect name).Unlinked)
    (hconstraints : ∀ constraint ∈ constraints, constraint.Regular)
    (hlinkedText : (script.linked dialect constraints).Spells linkedText) :
    ∃ plain table, script.Gives dialect text [plain] ∧
      (script.linked dialect constraints).Gives dialect linkedText [table] ∧
      table.withoutReferences = plain ∧ ∀ column ∈ table.columns, PairedBy constraints column := by
  set creation := script.creation dialect name with hcreation
  set keys := constraints.map LinkConstraint.keys with hkeysDef
  have hlinked : (script.linked dialect constraints).creation dialect name
      = creation.withKeys keys := TableScript.creation_linked hconstraints
  have hcolumns : ∀ column ∈ creation.columns, column.withoutReference = column := by
    intro column hcolumn
    obtain ⟨part, -, hread⟩ := TableScript.mem_columnsIn.mp hcolumn
    exact withoutReference_of_readDefinition hread (hplain.no_references column hcolumn)
  have htable : ∀ column ∈ creation.columns, column.foreignTable = none := by
    intro column hcolumn
    rw [← hcolumns column hcolumn]
    rfl
  have hkeys : (creation.withKeys keys).foreignKeys
      = constraints.flatMap LinkConstraint.keys := by
    rw [Creation.foreignKeys_withKeys, hplain.no_keys, List.nil_append, List.flatMap_def]
  have hnamed : creation.Named := by
    intro column hcolumn
    rw [hplain.no_keys, targetTable?, htable column hcolumn]
    simp
  have hlinkedNamed : (creation.withKeys keys).Named := by
    intro column hcolumn htarget
    rw [Creation.columns_withKeys] at hcolumn
    rw [hkeys, targetTable?, htable column hcolumn, Option.or_none] at htarget
    obtain ⟨key, hkey, hnone⟩ := Option.map_eq_some_iff.mp htarget
    have hmem := List.mem_reverse.mp (List.mem_of_find?_eq_some hkey)
    obtain ⟨constraint, hconstraint, hkey⟩ := List.mem_flatMap.mp hmem
    rw [table_of_mem_pairColumns hkey] at hnone
    exact (hconstraints constraint hconstraint).table_ne hnone
  refine ⟨creation.table, (creation.withKeys keys).table,
    hscript.gives_table htext hname hdefinitions hnamed, ?_,
    Creation.withoutReferences_table_withKeys hplain.no_keys hcolumns, ?_⟩
  · have hlinkedDefinitions : (script.linked dialect constraints).definitionTexts ≠ [] := by
      rw [TableScript.definitionTexts_linked hconstraints]
      exact List.append_ne_nil_of_left_ne_nil hdefinitions _
    rw [← hlinked] at hlinkedNamed ⊢
    exact (hscript.linked hconstraints).gives_table hlinkedText hname hlinkedDefinitions
      hlinkedNamed
  · intro column hcolumn
    obtain ⟨read, hread, rfl⟩ := List.mem_map.mp hcolumn
    rw [Creation.columns_withKeys] at hread
    rw [Creation.settled, hkeys]
    refine pairedBy_foldl constraints ?_
    rw [withoutReference_underDeclared, hcolumns read hread]

end References

/-- A table of two columns, one of whose names has a comma. -/
def pairScript : TableScript where
  head := "CREATE TABLE t ".toList
  parts := ["a INT".toList, " \"b, c\" INT".toList]

def pairText : String := "CREATE TABLE t (a INT, \"b, c\" INT)"

/-- Two constraints, the first of which lists one target for its two columns, the second none. -/
def pairConstraints : List LinkConstraint := [
  { columns := [{ name := "A" }, { name := "b, c", before := [' '] }]
    table := "x"
    targets? := some ([' '], [{ name := "id" }])
    before := [' '] },
  { columns := [{ name := "a" }], table := "y", before := [' '] }]

def pairLinkedText : String :=
  "CREATE TABLE t (a INT, \"b, c\" INT, FOREIGN KEY (\"A\", \"b, c\") REFERENCES \"x\" (\"id\"), " ++
    "FOREIGN KEY (\"a\") REFERENCES \"y\")"

theorem references_paired_two :
    pairScript.Creates .postgres "t" ∧ pairScript.Spells pairText ∧
      (pairScript.linked .postgres pairConstraints).Spells pairLinkedText ∧
      ∃ plain table, pairScript.Gives .postgres pairText [plain] ∧
        (pairScript.linked .postgres pairConstraints).Gives .postgres pairLinkedText [table] ∧
        table.withoutReferences = plain ∧
        ∀ column ∈ table.columns, PairedBy pairConstraints column := by
  have hscript : pairScript.Creates .postgres "t" :=
    ⟨by decide +kernel, by decide +kernel, by decide, .blank (by decide), by decide⟩
  have htext : pairScript.Spells pairText := by decide +kernel
  have hlinkedText : (pairScript.linked .postgres pairConstraints).Spells pairLinkedText := by
    decide +kernel
  have hconstraints : ∀ constraint ∈ pairConstraints, constraint.Regular := by
    intro constraint hconstraint
    simp only [pairConstraints, List.mem_cons, List.not_mem_nil, or_false] at hconstraint
    rcases hconstraint with rfl | rfl
    · exact ⟨spells_foreignKey, by decide, by decide, by decide, spells_references, by decide,
        by decide, by decide, by decide, by decide⟩
    · exact ⟨spells_foreignKey, by decide, by decide, by decide, spells_references, by decide,
        by decide, by decide, by decide, by decide⟩
  exact ⟨hscript, htext, hlinkedText, references_paired hscript htext (by decide)
    (by decide +kernel) (by decide +kernel) hconstraints hlinkedText⟩

end RelSchema.Ddl
