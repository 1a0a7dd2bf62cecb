import Mathlib.Data.List.TakeWhile
import RelSchema.Models.Source
import RelSchema.Proofs.Failure
import RelSchema.Proofs.Naming.Plural
import RelSchema.Proofs.Schema.Consistent

/-!
# References between structures

The relations of a structure mark foreign keys in its own table and in the tables of their targets.
The tables on both sides are named after structures, and the name of a structure is a word.
-/

namespace RelSchema.Models

theorem tableNameFor_ne_empty {structName : String} (h : structName ≠ "") :
    tableNameFor structName ≠ "" :=
  Naming.pluralize_ne_empty (Naming.toSnakeCase_ne_empty h)

def IsWord (s : String) : Prop :=
  s ≠ "" ∧ ∀ c ∈ s.toList, Text.isWordChar c = true

instance (s : String) : Decidable (IsWord s) :=
  decidable_of_iff (s ≠ "" ∧ s.toList.all Text.isWordChar = true)
    (and_congr_right' List.all_eq_true)

theorem isWord_of_takeWord? {s rest : List Char} {word : String}
    (h : takeWord? s = some (word, rest)) : IsWord word := by
  unfold takeWord? at h
  dsimp only at h
  split_ifs at h with hempty
  cases h
  refine ⟨by simpa using hempty, fun c hc => ?_⟩
  rw [String.toList_ofList] at hc
  exact List.mem_takeWhile_imp hc

theorem isWord_of_readHeader? {s rest : List Char} {name : String}
    (h : readHeader? s = some (name, rest)) : IsWord name := by
  unfold readHeader? at h
  obtain ⟨behind, -, h⟩ := Option.bind_eq_some_iff.mp h
  obtain ⟨⟨word, tail⟩, hword, h⟩ := Option.bind_eq_some_iff.mp h
  dsimp only at h
  obtain ⟨tail', -, h⟩ := Option.bind_eq_some_iff.mp h
  obtain ⟨rfl, -⟩ : word = name ∧ _ := by
    split_ifs at h
    exact Prod.mk.injEq .. ▸ Option.some.inj h
  exact isWord_of_takeWord? hword

theorem isWord_of_mem_headersFrom {skip : Nat} {before? : Option Char} {source : List Char}
    {header : String × List Char} (h : header ∈ headersFrom skip before? source) :
    IsWord header.1 := by
  induction source generalizing skip before? with
  | nil => cases h
  | cons c rest ih =>
      unfold headersFrom at h
      cases skip with
      | succ skip => exact ih h
      | zero =>
          dsimp only at h
          split at h
          · next name text hfound =>
            rcases List.mem_cons.mp h with rfl | hrest
            · split_ifs at hfound
              obtain ⟨behind, -, hheader⟩ := Option.bind_eq_some_iff.mp hfound
              exact isWord_of_readHeader? hheader
            · exact ih hrest
          · exact ih h

theorem isWord_of_mem_declarations {tag : String} {source : List Char} {declaration : Declaration}
    (h : declaration ∈ declarations tag source) : IsWord declaration.name := by
  obtain ⟨⟨name, text⟩, hheader, hread⟩ := List.mem_filterMap.mp h
  dsimp only [readDeclaration?] at hread
  split_ifs at hread
  cases hread
  exact isWord_of_mem_headersFrom hheader

theorem target_ne_of_targetOf? {type target : String} (h : targetOf? type = some target) :
    target ≠ "" := by
  obtain ⟨word, hword, rfl⟩ := Option.map_eq_some_iff.mp h
  have hne := (List.mem_filter.mp (List.mem_of_getLast? hword)).2
  simpa using hne

/-- A relation to a target goes through a table that the options of its field name, or through
none. -/
theorem of_relationTo {p : Relation → Prop} {owner : Declaration} {field : Field} {target : String}
    (hthrough : ∀ joinTable foreignKey referenceKey,
      field.options.given? "many2many" = some joinTable →
      p { name := field.name, kind := .manyToMany, table := tableNameFor target,
          joinTable := some joinTable, foreignKey, referenceKey })
    (hdirect : ∀ kind foreignKey referenceKey, kind ≠ .manyToMany →
      p { name := field.name, kind, table := tableNameFor target, foreignKey, referenceKey }) :
    p (relationTo owner field target) := by
  unfold relationTo
  by_cases hlist : isListType field.type = true
  · rw [if_pos hlist]
    cases hjoin : field.options.given? "many2many" with
    | some joinTable => exact hthrough joinTable _ _ hjoin
    | none => exact hdirect .hasMany _ _ (by decide)
  · rw [if_neg hlist]
    cases owner.columnFor? ((field.options.given? "foreignkey").getD (field.name ++ "ID")) with
    | some column => exact hdirect .belongsTo _ _ (by decide)
    | none => exact hdirect .hasOne _ _ (by decide)

theorem table_relationTo (owner : Declaration) (field : Field) (target : String) :
    (relationTo owner field target).table = tableNameFor target := by
  refine of_relationTo (p := fun relation => relation.table = tableNameFor target)
    (fun _ _ _ _ => ?_) fun _ _ _ _ => ?_
  · dsimp only
  · dsimp only

theorem relationOf_eq_ok_iff {owner : Declaration} {field : Field} {relation : Relation} :
    relationOf owner field = .ok relation ↔
      ∃ target, targetOf? field.type = some target ∧ relationTo owner field target = relation := by
  unfold relationOf
  cases targetOf? field.type with
  | none => simp
  | some target => simp

theorem table_ne_of_relationOf {owner : Declaration} {field : Field} {relation : Relation}
    (h : relationOf owner field = .ok relation) : relation.table ≠ "" := by
  obtain ⟨target, htarget, rfl⟩ := relationOf_eq_ok_iff.mp h
  rw [table_relationTo]
  exact tableNameFor_ne_empty (target_ne_of_targetOf? htarget)

/-- What marks keep of a column is kept of all columns. -/
theorem map_markForeign_eq {β : Type} {f : Column → β}
    (hf : ∀ (column : Column) table key, f (column.asForeignKey table key) = f column)
    (name table key : String) (columns : List Column) :
    (markForeign name table key columns).map f = columns.map f := by
  rw [markForeign, List.map_map]
  refine List.map_congr_left fun column _ => ?_
  rw [Function.comp_apply]
  split_ifs
  · exact hf column table key
  · rfl

/-- What the marks of all relations keep of the columns is kept by a structure's own relations. -/
theorem of_foldl_markLocal {p : List Column → Prop} {relations : List Relation}
    (hmark : ∀ relation ∈ relations, ∀ columns, p columns →
      p (markForeign relation.foreignKey relation.table relation.referenceKey columns))
    {columns : List Column} (h : p columns) : p (relations.foldl markLocal columns) := by
  induction relations generalizing columns with
  | nil => exact h
  | cons relation relations ih =>
      obtain ⟨hrelation, hothers⟩ := List.forall_mem_cons.mp hmark
      apply ih hothers
      unfold markLocal
      by_cases hkind : (relation.kind == .belongsTo) = true
      · rw [if_pos hkind]
        exact hrelation columns h
      · rw [if_neg hkind]
        exact h

theorem forall_mem_changeLast {α : Type} {p : α → Bool} {f : α → α} {q : α → Prop} {as : List α}
    (h : ∀ a ∈ as, q a) (hf : ∀ a, q a → q (f a)) : ∀ a ∈ changeLast p f as, q a := by
  induction as with
  | nil => exact h
  | cons first rest ih =>
      obtain ⟨hfirst, hrest⟩ := List.forall_mem_cons.mp h
      unfold changeLast
      split_ifs
      · exact List.forall_mem_cons.mpr ⟨hf first hfirst, hrest⟩
      · exact List.forall_mem_cons.mpr ⟨hfirst, ih hrest⟩

theorem forall_mem_foldl_markTarget {q : Table → Prop} {owner : String} {relations : List Relation}
    (hmark : ∀ relation ∈ relations, ∀ table : Table, q table → q { table with
      columns := markForeign relation.foreignKey owner relation.referenceKey table.columns })
    {tables : List Table} (h : ∀ table ∈ tables, q table) :
    ∀ table ∈ relations.foldl (markTarget owner) tables, q table := by
  induction relations generalizing tables with
  | nil => exact h
  | cons relation relations ih =>
      obtain ⟨hrelation, hothers⟩ := List.forall_mem_cons.mp hmark
      apply ih hothers
      unfold markTarget
      split_ifs
      · exact forall_mem_changeLast h hrelation
      · exact h

/-- What the marks of all relations keep of a table is kept by the marks on target tables. -/
theorem forall_mem_markTargets {q : Table → Prop} {tables : List Table}
    (hmark : ∀ owner ∈ tables, ∀ relation ∈ owner.relations, ∀ table : Table, q table →
      q { table with
        columns := markForeign relation.foreignKey owner.name relation.referenceKey table.columns })
    (h : ∀ table ∈ tables, q table) : ∀ table ∈ markTargets tables, q table := by
  -- the marked tables change while the owners stay those of the whole list
  suffices hfold : ∀ owners : List Table, owners ⊆ tables →
      ∀ marked : List Table, (∀ table ∈ marked, q table) →
        ∀ table ∈ owners.foldl (fun marked owner =>
          owner.relations.foldl (markTarget owner.name) marked) marked, q table by
    exact hfold tables (List.Subset.refl tables) tables h
  intro owners howners
  induction owners with
  | nil => exact fun marked hmarked => hmarked
  | cons owner owners ih =>
      intro marked hmarked
      obtain ⟨howner, hothers⟩ := List.cons_subset.mp howners
      exact ih hothers _ (forall_mem_foldl_markTarget (hmark owner howner) hmarked)

theorem consistent_markForeign {name table key : String} (htable : table ≠ "")
    {columns : List Column} (h : ∀ column ∈ columns, column.Consistent) :
    ∀ column ∈ markForeign name table key columns, column.Consistent := by
  intro column hcolumn
  obtain ⟨original, horiginal, rfl⟩ := List.mem_map.mp hcolumn
  split_ifs
  · exact Column.consistent_asForeignKey htable _
  · exact h original horiginal

theorem tableOf_eq_ok_iff {dialect : Dialect} {declaration : Declaration} {table : Table} :
    tableOf dialect declaration = .ok table ↔
      ∃ relations, declaration.relations.mapM (relationOf declaration) = .ok relations ∧
        table = {
          name := declaration.tableName
          columns := relations.foldl markLocal (declaration.columns.map (columnOf dialect))
          relations
          primaryKeys := primaryKeyOrder
            (relations.foldl markLocal (declaration.columns.map (columnOf dialect))) [] } := by
  constructor
  · intro h
    obtain ⟨relations, hrelations, h⟩ := bind_eq_ok_iff.mp h
    exact ⟨relations, hrelations, (Except.ok.inj h).symm⟩
  · rintro ⟨relations, hrelations, rfl⟩
    exact bind_eq_ok_iff.mpr ⟨relations, hrelations, rfl⟩

theorem consistent_of_tableOf {dialect : Dialect} {declaration : Declaration} {table : Table}
    (h : tableOf dialect declaration = .ok table) : table.Consistent := by
  obtain ⟨relations, hrelations, rfl⟩ := tableOf_eq_ok_iff.mp h
  refine of_foldl_markLocal (p := fun columns => ∀ column ∈ columns, column.Consistent) ?_ ?_
  · intro relation hrelation columns hcolumns
    obtain ⟨field, -, hfield⟩ := exists_of_mem_mapM hrelations hrelation
    exact consistent_markForeign (table_ne_of_relationOf hfield) hcolumns
  · intro column hcolumn
    obtain ⟨field, -, rfl⟩ := List.mem_map.mp hcolumn
    rfl

theorem name_of_tableOf {dialect : Dialect} {declaration : Declaration} {table : Table}
    (h : tableOf dialect declaration = .ok table) : table.name = declaration.tableName := by
  obtain ⟨relations, -, rfl⟩ := tableOf_eq_ok_iff.mp h
  dsimp only

theorem exists_of_parse {source tag : String} {dialect : Dialect} {tables : List Table}
    (h : parse source dialect tag = .ok tables) : ∃ found, tables = markTargets found ∧
      ∀ table ∈ found, ∃ declaration ∈ declarations tag (stripComments source.toList),
        declaration.columns ≠ [] ∧ tableOf dialect declaration = .ok table := by
  unfold parse at h
  obtain ⟨found, hfound, h⟩ := bind_eq_ok_iff.mp h
  cases h
  refine ⟨found, rfl, fun table htable => ?_⟩
  obtain ⟨declaration, hdeclaration, hread⟩ := exists_of_mem_mapM hfound htable
  obtain ⟨hmem, hcolumns⟩ := List.mem_filter.mp hdeclaration
  exact ⟨declaration, hmem, by simpa using hcolumns, hread⟩

theorem name_ne_of_tableOf {tag : String} {source : List Char} {dialect : Dialect}
    {declaration : Declaration} (hdeclaration : declaration ∈ declarations tag source)
    {table : Table} (h : tableOf dialect declaration = .ok table) : table.name ≠ "" := by
  rw [name_of_tableOf h]
  exact tableNameFor_ne_empty (isWord_of_mem_declarations hdeclaration).1

theorem consistent_of_parse {source tag : String} {dialect : Dialect} {tables : List Table}
    (h : parse source dialect tag = .ok tables) : ∀ table ∈ tables, table.Consistent := by
  obtain ⟨found, rfl, hfound⟩ := exists_of_parse h
  apply forall_mem_markTargets
  · intro owner howner relation _ table htable
    obtain ⟨declaration, hdeclaration, -, hread⟩ := hfound owner howner
    exact consistent_markForeign (name_ne_of_tableOf hdeclaration hread) htable
  · intro table htable
    obtain ⟨declaration, -, -, hread⟩ := hfound table htable
    exact consistent_of_tableOf hread

end RelSchema.Models
