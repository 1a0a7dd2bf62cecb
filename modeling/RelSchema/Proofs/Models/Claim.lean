import RelSchema.Proofs.Ddl.Origin
import RelSchema.Proofs.Models.Linked

/-!
# Columns that relations claim

A relation that belongs to its target claims a column of its own table, and a relation to one or to
many claims one of the target's. Reading gives columns that refer to nothing, and every mark leaves
the columns alone that are foreign already. So a column refers to what the first claim on it says:
those of its own table come first, then those of all owners in the order of the source. Nothing else
about the tables changes when marks are made on targets.
-/

namespace RelSchema

open Ddl (DistinctFolds)

/-- What a relation says of the columns of a name: they refer to the key of a table. -/
structure Claim where
  column : String
  table : String
  key : String
  deriving DecidableEq, Repr

namespace Column

/-- The column under a claim on the columns of a name, which leaves foreign ones alone. -/
def claimed (column : Column) (claim : Claim) : Column :=
  if column.name == claim.column && !column.isForeignKey then
    column.asForeignKey claim.table (some claim.key)
  else column

variable {column : Column}

theorem foldl_claimed_of_isForeignKey (h : column.isForeignKey = true) (claims : List Claim) :
    claims.foldl claimed column = column := by
  induction claims with
  | nil => rfl
  | cons claim claims ih =>
      have hkept : column.claimed claim = column := by
        rw [claimed, h, Bool.not_true, Bool.and_false, if_neg Bool.false_ne_true]
      rw [List.foldl_cons, hkept, ih]

/-- Of several claims on a column that refers to nothing the first one counts. -/
theorem foldl_claimed (h : column.isForeignKey = false) (claims : List Claim) :
    claims.foldl claimed column = match claims.find? (·.column == column.name) with
      | some claim => column.asForeignKey claim.table (some claim.key)
      | none => column := by
  induction claims with
  | nil => rfl
  | cons claim claims ih =>
      rw [List.foldl_cons, claimed, h, Bool.not_false, Bool.and_true, List.find?_cons]
      by_cases hname : claim.column = column.name
      · rw [if_pos (beq_iff_eq.mpr hname.symm), beq_iff_eq.mpr hname]
        exact foldl_claimed_of_isForeignKey rfl claims
      · rw [if_neg fun heq => hname (beq_iff_eq.mp heq).symm, beq_eq_false_iff_ne.mpr hname]
        exact ih

theorem withoutReference_foldl_claimed (claims : List Claim) (column : Column) :
    (claims.foldl claimed column).withoutReference = column.withoutReference := by
  induction claims generalizing column with
  | nil => rfl
  | cons claim claims ih =>
      rw [List.foldl_cons, ih, claimed]
      split_ifs <;> rfl

theorem name_foldl_claimed (claims : List Claim) (column : Column) :
    (claims.foldl claimed column).name = column.name :=
  (withoutReference_eq_iff.mp (withoutReference_foldl_claimed claims column)).1

end Column

/-- The claim of a relation that belongs to its target, on its own table. -/
def Relation.ownClaim? (relation : Relation) : Option Claim :=
  if relation.kind == .belongsTo then
    some ⟨relation.foreignKey, relation.table, relation.referenceKey⟩
  else none

/-- The claim of a relation to one or to many of the owner, if its target has the name up to
case. -/
def Relation.claimOn? (owner table : String) (relation : Relation) : Option Claim :=
  if (relation.kind == .hasMany || relation.kind == .hasOne) &&
      Text.sameFold table relation.table then
    some ⟨relation.foreignKey, owner, relation.referenceKey⟩
  else none

namespace Table

def ownClaims (table : Table) : List Claim :=
  table.relations.filterMap Relation.ownClaim?

/-- The claims of the table's relations on the table of the name. -/
def claimsOn (name : String) (table : Table) : List Claim :=
  table.relations.filterMap (Relation.claimOn? table.name name)

def claimed (table : Table) (claims : List Claim) : Table :=
  { table with columns := table.columns.map fun column => claims.foldl Column.claimed column }

@[simp]
theorem name_claimed (table : Table) (claims : List Claim) :
    (table.claimed claims).name = table.name := rfl

theorem columns_claimed (table : Table) (claims : List Claim) :
    (table.claimed claims).columns
      = table.columns.map fun column => claims.foldl Column.claimed column := rfl

theorem ownClaims_claimed (table : Table) (claims : List Claim) :
    (table.claimed claims).ownClaims = table.ownClaims := rfl

theorem claimed_claimed (table : Table) (first second : List Claim) :
    (table.claimed first).claimed second = table.claimed (first ++ second) := by
  simp only [claimed, List.map_map, List.foldl_append]
  rfl

theorem claimed_nil (table : Table) : table.claimed [] = table := by
  rw [claimed]
  exact congrArg (fun columns => { table with columns }) (List.map_id table.columns)

end Table

/-- The first claim on the columns of the name in one of the tables: its own relations come before
those of all tables in order. -/
def firstClaim? (tables : List Table) (table : Table) (column : String) : Option Claim :=
  (table.ownClaims ++ tables.flatMap (Table.claimsOn table.name)).find? (·.column == column)

/-- A relation to one or to many of a table claims what its key names in the table of the name. -/
theorem mem_claimsOn_iff {tables : List Table} {name : String} {claim : Claim} :
    claim ∈ tables.flatMap (Table.claimsOn name) ↔
      ∃ owner ∈ tables, ∃ relation ∈ owner.relations,
        (relation.kind = .hasMany ∨ relation.kind = .hasOne) ∧
          Text.sameFold name relation.table = true ∧
          claim = ⟨relation.foreignKey, owner.name, relation.referenceKey⟩ := by
  simp only [List.mem_flatMap, Table.claimsOn, List.mem_filterMap, Relation.claimOn?,
    Option.ite_none_right_eq_some, Bool.and_eq_true, Bool.or_eq_true, beq_iff_eq, and_assoc,
    Option.some.injEq, eq_comm (b := claim)]

theorem mem_ownClaims_iff {table : Table} {claim : Claim} :
    claim ∈ table.ownClaims ↔ ∃ relation ∈ table.relations, relation.kind = .belongsTo ∧
      claim = ⟨relation.foreignKey, relation.table, relation.referenceKey⟩ := by
  simp only [Table.ownClaims, List.mem_filterMap, Relation.ownClaim?, Option.ite_none_right_eq_some,
    beq_iff_eq, Option.some.injEq, eq_comm (b := claim)]

/-- There is a first claim on a column exactly if a relation claims it. -/
theorem firstClaim?_isSome_iff {tables : List Table} {table : Table} {column : String} :
    (firstClaim? tables table column).isSome ↔
      (∃ relation ∈ table.relations, relation.kind = .belongsTo ∧ relation.foreignKey = column) ∨
        ∃ owner ∈ tables, ∃ relation ∈ owner.relations,
          (relation.kind = .hasMany ∨ relation.kind = .hasOne) ∧
            Text.sameFold table.name relation.table = true ∧ relation.foreignKey = column := by
  rw [firstClaim?, List.find?_isSome]
  simp only [List.mem_append, mem_ownClaims_iff, mem_claimsOn_iff, beq_iff_eq]
  constructor
  · rintro ⟨_, ⟨relation, hrelation, hkind, rfl⟩ | hother, hcolumn⟩
    · exact Or.inl ⟨relation, hrelation, hkind, hcolumn⟩
    · obtain ⟨owner, howner, relation, hrelation, hkind, htable, rfl⟩ := hother
      exact Or.inr ⟨owner, howner, relation, hrelation, hkind, htable, hcolumn⟩
  · rintro (⟨relation, hrelation, hkind, hcolumn⟩ | hother)
    · exact ⟨_, Or.inl ⟨relation, hrelation, hkind, rfl⟩, hcolumn⟩
    · obtain ⟨owner, howner, relation, hrelation, hkind, htable, hcolumn⟩ := hother
      exact ⟨_, Or.inr ⟨owner, howner, relation, hrelation, hkind, htable, rfl⟩, hcolumn⟩

namespace Models

/-! ### Marks as claims

A mark leaves foreign columns alone, so it does to a column what a claim does, and marks in a row do
what claims in a row do. The loop over all tables comes down to one list of claims for each of them.
-/

/-- The marks of a structure's own relations put its columns under the claims of these. -/
theorem foldl_markLocal (relations : List Relation) (columns : List Column) :
    relations.foldl markLocal columns
      = columns.map fun column =>
          (relations.filterMap Relation.ownClaim?).foldl Column.claimed column := by
  induction relations generalizing columns with
  | nil => exact (List.map_id columns).symm
  | cons relation relations ih =>
      rw [List.foldl_cons, ih, markLocal]
      by_cases hkind : (relation.kind == .belongsTo) = true
      · have hclaim : relation.ownClaim?
            = some ⟨relation.foreignKey, relation.table, relation.referenceKey⟩ := if_pos hkind
        rw [if_pos hkind, markForeign, List.map_map, List.filterMap_cons_some hclaim]
        rfl
      · have hclaim : relation.ownClaim? = none := if_neg hkind
        rw [if_neg hkind, List.filterMap_cons_none hclaim]

theorem getElem?_changeLast {α : Type} (p : α → Bool) (f : α → α) (as : List α) (i : Nat) :
    (changeLast p f as)[i]? = as[i]?.map fun a =>
      if p a && !(as.drop (i + 1)).any p then f a else a := by
  induction as generalizing i with
  | nil => rfl
  | cons a as ih =>
      have hcons : changeLast p f (a :: as)
          = (if p a && !as.any p then f a else a) ::
              (if p a && !as.any p then as else changeLast p f as) := by
        rw [changeLast]
        split_ifs <;> rfl
      rw [hcons]
      cases i with
      | zero => rfl
      | succ i =>
          rw [List.getElem?_cons_succ, List.getElem?_cons_succ, List.drop_succ_cons]
          split_ifs with hlast
          · -- behind the last element of the kind there is none to change
            have hnone : as.any p = false := by
              simpa using (Bool.and_eq_true_iff.mp hlast).2
            cases ha : as[i]? with
            | none => rfl
            | some other =>
                have hother : p other = false := by
                  simpa using List.any_eq_false.mp hnone other (List.mem_of_getElem? ha)
                rw [Option.map_some, hother, Bool.false_and, if_neg Bool.false_ne_true]
          · exact ih i

/-- Whether a table behind the place has the name up to case. -/
def hasNamesake (tables : List Table) (i : Nat) (name : String) : Bool :=
  (tables.drop (i + 1)).any fun table => Text.sameFold table.name name

theorem hasNamesake_congr {tables others : List Table}
    (h : tables.map (·.name) = others.map (·.name)) (i : Nat) (name : String) :
    hasNamesake tables i name = hasNamesake others i name := by
  have hany : ∀ tables : List Table, hasNamesake tables i name
      = ((tables.map (·.name)).drop (i + 1)).any (Text.sameFold · name) := by
    intro tables
    rw [hasNamesake, ← List.map_drop, List.any_map]
    rfl
  rw [hany, hany, h]

/-- The mark of one relation puts the last table of each name under the claim of the relation. -/
theorem getElem?_markTarget (owner : String) (tables : List Table) (relation : Relation) (i : Nat) :
    (markTarget owner tables relation)[i]? = tables[i]?.map fun table =>
      if hasNamesake tables i table.name then table
      else table.claimed (relation.claimOn? owner table.name).toList := by
  rw [markTarget]
  by_cases hkind : (relation.kind == .hasMany || relation.kind == .hasOne) = true
  · rw [if_pos hkind, getElem?_changeLast]
    refine congrArg (Option.map · tables[i]?) (funext fun table => ?_)
    by_cases htable : Text.sameFold table.name relation.table = true
    · have hclaim : relation.claimOn? owner table.name
          = some ⟨relation.foreignKey, owner, relation.referenceKey⟩ := by
        rw [Relation.claimOn?, hkind, htable, Bool.and_self, if_pos rfl]
      have hlater : (tables.drop (i + 1)).any (fun other => Text.sameFold other.name relation.table)
          = hasNamesake tables i table.name := by
        have hfold : Text.fold table.name = Text.fold relation.table := beq_iff_eq.mp htable
        simp only [hasNamesake, Text.sameFold, hfold]
      rw [hlater, htable, Bool.true_and, hclaim]
      cases hasNamesake tables i table.name <;> rfl
    · have hclaim : relation.claimOn? owner table.name = none := by
        rw [Relation.claimOn?, Bool.eq_false_iff.mpr htable, Bool.and_false,
          if_neg Bool.false_ne_true]
      rw [if_neg (by simp [htable]), hclaim, Option.toList_none, Table.claimed_nil, ite_self]
  · have hclaim : ∀ name, relation.claimOn? owner name = none := by
      intro name
      rw [Relation.claimOn?, Bool.eq_false_iff.mpr hkind, Bool.false_and,
        if_neg Bool.false_ne_true]
    simp only [if_neg hkind, hclaim, Option.toList_none, Table.claimed_nil, ite_self,
      Option.map_id']

theorem getElem?_foldl_markTarget (owner : String) (relations : List Relation)
    (tables : List Table) (i : Nat) :
    (relations.foldl (markTarget owner) tables)[i]? = tables[i]?.map fun table =>
      if hasNamesake tables i table.name then table
      else table.claimed (relations.filterMap (Relation.claimOn? owner table.name)) := by
  induction relations generalizing tables with
  | nil => simp [Table.claimed_nil]
  | cons relation relations ih =>
      have hnames := hasNamesake_congr
        (map_markTarget_eq (g := Table.name) (fun _ _ _ _ => rfl) owner tables relation) i
      rw [List.foldl_cons, ih, getElem?_markTarget, Option.map_map]
      refine congrArg (Option.map · tables[i]?) (funext fun table => ?_)
      rw [Function.comp_apply]
      by_cases hlater : hasNamesake tables i table.name = true
      · rw [if_pos hlater, hnames, if_pos hlater, if_pos hlater]
      · rw [if_neg hlater, if_neg hlater, hnames, Table.name_claimed, if_neg hlater,
          Table.claimed_claimed]
        refine congrArg table.claimed ?_
        cases hclaim : relation.claimOn? owner table.name with
        | none => rw [List.filterMap_cons_none hclaim]; rfl
        | some claim => rw [List.filterMap_cons_some hclaim]; rfl

/-- The marks of all relations put the last table of each name under the claims of all relations
with this target, in the order of their owners. -/
theorem getElem?_markTargets (tables : List Table) (i : Nat) :
    (markTargets tables)[i]? = tables[i]?.map fun table =>
      if hasNamesake tables i table.name then table
      else table.claimed (tables.flatMap (Table.claimsOn table.name)) := by
  -- the marked tables change while the owners stay those of the whole list
  suffices hfold : ∀ owners marked : List Table,
      (owners.foldl (fun marked owner =>
        owner.relations.foldl (markTarget owner.name) marked) marked)[i]?
      = marked[i]?.map fun table =>
        if hasNamesake marked i table.name then table
        else table.claimed (owners.flatMap (Table.claimsOn table.name)) by
    exact hfold tables tables
  intro owners
  induction owners with
  | nil => simp [Table.claimed_nil]
  | cons owner owners ih =>
      intro marked
      have hnames := hasNamesake_congr
        (map_foldl_markTarget_eq (g := Table.name) (fun _ _ _ _ => rfl) owner.name
          owner.relations marked) i
      rw [List.foldl_cons, ih, getElem?_foldl_markTarget, Option.map_map]
      refine congrArg (Option.map · marked[i]?) (funext fun table => ?_)
      rw [Function.comp_apply]
      by_cases hlater : hasNamesake marked i table.name = true
      · rw [if_pos hlater, hnames, if_pos hlater, if_pos hlater]
      · rw [if_neg hlater, if_neg hlater, hnames, Table.name_claimed, if_neg hlater,
          Table.claimed_claimed]
        rfl

theorem withoutReferences_markForeign (table : Table) (name owner key : String) :
    Table.withoutReferences { table with columns := markForeign name owner key table.columns }
      = table.withoutReferences := by
  have hcolumns : (markForeign name owner key table.columns).map Column.withoutReference
      = table.columns.map Column.withoutReference :=
    map_markForeign_eq (fun _ _ _ => rfl) name owner key table.columns
  simp only [Table.withoutReferences, hcolumns]

/-- The structures of a source that give tables: those with a value field. -/
def modelled (tag source : String) : List Declaration :=
  (declarations tag (stripComments source.toList)).filter (!·.columns.isEmpty)

theorem parse_eq_ok_iff {source tag : String} {dialect : Dialect} {tables : List Table} :
    parse source dialect tag = .ok tables ↔
      ∃ read, (modelled tag source).mapM (tableOf dialect) = .ok read ∧
        tables = markTargets read := by
  constructor
  · intro h
    obtain ⟨read, hread, h⟩ := bind_eq_ok_iff.mp h
    exact ⟨read, hread, (Except.ok.inj h).symm⟩
  · rintro ⟨read, hread, rfl⟩
    exact bind_eq_ok_iff.mpr ⟨read, hread, rfl⟩

/-- The claims on the columns of the table at a place, those of its own relations first. Of several
tables of a name up to case only the last one is the target of others. -/
def claimsAt (tables : List Table) (i : Nat) (table : Table) : List Claim :=
  table.ownClaims ++
    if hasNamesake tables i table.name then [] else tables.flatMap (Table.claimsOn table.name)

theorem flatMap_claimsOn_markTargets (tables : List Table) (name : String) :
    (markTargets tables).flatMap (Table.claimsOn name) = tables.flatMap (Table.claimsOn name) := by
  rw [List.flatMap_def, List.flatMap_def,
    map_markTargets_eq (g := Table.claimsOn name) fun _ _ _ _ => rfl]

/-- The columns of a structure are under the claims of its own relations. -/
theorem of_tableOf {dialect : Dialect} {declaration : Declaration} {table : Table}
    (h : tableOf dialect declaration = .ok table) :
    table.name = declaration.tableName ∧
      declaration.relations.mapM (relationOf declaration) = .ok table.relations ∧
      table.columns = declaration.columns.map fun field =>
        table.ownClaims.foldl Column.claimed (columnOf dialect field) := by
  have hname := name_of_tableOf h
  obtain ⟨relations, hrelations, rfl⟩ := tableOf_eq_ok_iff.mp h
  refine ⟨hname, hrelations, ?_⟩
  dsimp only
  rw [foldl_markLocal, List.map_map]
  exact List.map_congr_left fun field _ => by dsimp only [Function.comp_apply, Table.ownClaims]

/-- The table of a structure has its relations, and its columns as they are read under the claims on
them. -/
theorem table_markTargets {dialect : Dialect} {found : List Declaration} {read : List Table}
    (hread : found.mapM (tableOf dialect) = .ok read) {i : Nat} {declaration : Declaration}
    (hdeclaration : found[i]? = some declaration) {table : Table}
    (htable : (markTargets read)[i]? = some table) :
    table.name = declaration.tableName ∧
      declaration.relations.mapM (relationOf declaration) = .ok table.relations ∧
      table.columns = declaration.columns.map fun field =>
        (claimsAt (markTargets read) i table).foldl Column.claimed (columnOf dialect field) := by
  rw [getElem?_markTargets] at htable
  obtain ⟨original, horiginal, htable⟩ := Option.map_eq_some_iff.mp htable
  have htableOf : tableOf dialect declaration = .ok original := by
    have hplace := congrArg (·[i]?) (mapM_eq_ok_iff.mp hread)
    simp only [List.getElem?_map, hdeclaration, horiginal, Option.map_some] at hplace
    exact Option.some.inj hplace
  obtain ⟨hname, hrelations, hcolumns⟩ := of_tableOf htableOf
  have hnamesake : ∀ name, hasNamesake (markTargets read) i name = hasNamesake read i name :=
    hasNamesake_congr (map_markTargets_eq (g := Table.name) (fun _ _ _ _ => rfl) read) i
  by_cases hlater : hasNamesake read i original.name = true
  · rw [if_pos hlater] at htable
    subst htable
    rw [claimsAt, hnamesake, if_pos hlater, List.append_nil]
    exact ⟨hname, hrelations, hcolumns⟩
  · rw [if_neg hlater] at htable
    subst htable
    rw [claimsAt, hnamesake, Table.name_claimed, if_neg hlater, flatMap_claimsOn_markTargets]
    refine ⟨hname, hrelations, ?_⟩
    rw [Table.columns_claimed, hcolumns, List.map_map]
    refine List.map_congr_left fun field _ => ?_
    rw [Function.comp_apply, List.foldl_append, Table.ownClaims_claimed]

/-- Every table of a source is that of a structure. -/
theorem exists_table_markTargets {dialect : Dialect} {found : List Declaration} {read : List Table}
    (hread : found.mapM (tableOf dialect) = .ok read) {i : Nat} {table : Table}
    (htable : (markTargets read)[i]? = some table) :
    ∃ declaration, found[i]? = some declaration := by
  rw [getElem?_markTargets] at htable
  obtain ⟨original, horiginal, -⟩ := Option.map_eq_some_iff.mp htable
  have hplace := congrArg (·[i]?) (mapM_eq_ok_iff.mp hread)
  simp only [List.getElem?_map, horiginal, Option.map_some] at hplace
  obtain ⟨declaration, hdeclaration, -⟩ := Option.map_eq_some_iff.mp hplace
  exact ⟨declaration, hdeclaration⟩

/-- Among tables of distinct names none has a namesake behind it. -/
theorem hasNamesake_of_distinct {tables : List Table}
    (hdistinct : DistinctFolds (tables.map (·.name))) {i : Nat} {table : Table}
    (htable : tables[i]? = some table) : hasNamesake tables i table.name = false := by
  refine List.any_eq_false.mpr fun other hother hsame => ?_
  obtain ⟨j, hj⟩ := List.mem_iff_getElem?.mp hother
  rw [List.getElem?_drop] at hj
  have hfold : ∀ (k : Nat) (found : Table), tables[k]? = some found →
      ((tables.map (·.name)).map Text.fold)[k]? = some (Text.fold found.name) := by
    intro k found hfound
    rw [List.getElem?_map, List.getElem?_map, hfound]
    rfl
  have hi := hfold i table htable
  have hlater := hfold (i + 1 + j) other hj
  rw [beq_iff_eq.mp hsame, ← hi] at hlater
  have hplaces := (List.getElem?_inj (List.getElem?_eq_some_iff.mp hi).1 hdistinct).mp hlater.symm
  omega

/-- In a source whose tables have distinct names a column is foreign exactly if a relation of its
table that belongs to its target has it as its key, or a relation to one or to many of some table
with this target. It refers to what the first of these says, in the order of the source but those of
its own table first. Marks on targets change nothing else. -/
theorem references_of_parse {source tag : String} {dialect : Dialect} {tables : List Table}
    (h : parse source dialect tag = .ok tables)
    (hdistinct : DistinctFolds (tables.map (·.name))) :
    (∀ table ∈ tables, ∀ column ∈ table.columns,
      (column.isForeignKey = true ↔
        (∃ relation ∈ table.relations,
          relation.kind = .belongsTo ∧ relation.foreignKey = column.name) ∨
        ∃ owner ∈ tables, ∃ relation ∈ owner.relations,
          (relation.kind = .hasMany ∨ relation.kind = .hasOne) ∧
            Text.sameFold table.name relation.table = true ∧ relation.foreignKey = column.name) ∧
      column.foreignTable = (firstClaim? tables table column.name).map (·.table) ∧
      column.foreignKey = (firstClaim? tables table column.name).map (·.key)) ∧
    ∃ read, (modelled tag source).mapM (tableOf dialect) = .ok read ∧ tables = markTargets read ∧
      tables.map Table.withoutReferences = read.map Table.withoutReferences := by
  obtain ⟨read, hread, rfl⟩ := parse_eq_ok_iff.mp h
  refine ⟨fun table htable column hcolumn => ?_, read, hread, rfl,
    map_markTargets_eq withoutReferences_markForeign read⟩
  obtain ⟨i, hi⟩ := List.mem_iff_getElem?.mp htable
  obtain ⟨declaration, hdeclaration⟩ := exists_table_markTargets hread hi
  obtain ⟨-, -, hcolumns⟩ := table_markTargets hread hdeclaration hi
  rw [hcolumns] at hcolumn
  obtain ⟨field, -, rfl⟩ := List.mem_map.mp hcolumn
  have hclaims : claimsAt (markTargets read) i table
      = table.ownClaims ++ (markTargets read).flatMap (Table.claimsOn table.name) := by
    rw [claimsAt, hasNamesake_of_distinct hdistinct hi, if_neg Bool.false_ne_true]
  have hforeign : (columnOf dialect field).isForeignKey = false := rfl
  have hcolumn := Column.foldl_claimed hforeign (claimsAt (markTargets read) i table)
  rw [← firstClaim?_isSome_iff, Column.name_foldl_claimed, hcolumn, hclaims, ← firstClaim?]
  cases firstClaim? (markTargets read) table (columnOf dialect field).name with
  | none => exact ⟨by simp [columnOf], rfl, rfl⟩
  | some claim => exact ⟨by simp [Column.asForeignKey], rfl, rfl⟩

/-- A source with two claims on one column, from its own table and from another one and from two
others, and with a table that is its own target. -/
def officeSource : String :=
  "type Post struct \x7b\nAuthorID uint\n" ++
    "Author Person \x60gorm:\"foreignKey:AuthorID\"\x60\n\x7d\n" ++
    "type User struct \x7b\nBossID uint\nPosts []Post \x60gorm:\"foreignKey:AuthorID\"\x60\n" ++
    "Staff []*User \x60gorm:\"foreignKey:BossID;references:Email\"\x60\nProfile Profile\n\x7d\n" ++
    "type Team struct \x7b\nID uint\nChief Profile \x60gorm:\"foreignKey:UserID\"\x60\n\x7d\n" ++
    "type Profile struct \x7b\nUserID uint\n\x7d\n"

def office : List Table := [
  { name := "posts"
    columns := [
      { name := "author_id", type := "INTEGER", declaredType := some "uint", isForeignKey := true,
        foreignTable := some "people", foreignKey := some "id" }]
    relations := [
      { name := "Author", kind := .belongsTo, table := "people", foreignKey := "author_id",
        referenceKey := "id" }] },
  { name := "users"
    columns := [
      { name := "boss_id", type := "INTEGER", declaredType := some "uint", isForeignKey := true,
        foreignTable := some "users", foreignKey := some "email" }]
    relations := [
      { name := "Posts", kind := .hasMany, table := "posts", foreignKey := "author_id",
        referenceKey := "id" },
      { name := "Staff", kind := .hasMany, table := "users", foreignKey := "boss_id",
        referenceKey := "email" },
      { name := "Profile", kind := .hasOne, table := "profiles", foreignKey := "user_id",
        referenceKey := "id" }] },
  { name := "teams"
    columns := [{ name := "id", type := "INTEGER", declaredType := some "uint" }]
    relations := [
      { name := "Chief", kind := .hasOne, table := "profiles", foreignKey := "user_id",
        referenceKey := "id" }] },
  { name := "profiles"
    columns := [
      { name := "user_id", type := "INTEGER", declaredType := some "uint", isForeignKey := true,
        foreignTable := some "users", foreignKey := some "id" }] }]

theorem references_of_parse_office :
    (parse officeSource .sqlite "gorm" = .ok office ∧ DistinctFolds (office.map (·.name))) ∧
    (∀ table ∈ office, ∀ column ∈ table.columns,
      (column.isForeignKey = true ↔
        (∃ relation ∈ table.relations,
          relation.kind = .belongsTo ∧ relation.foreignKey = column.name) ∨
        ∃ owner ∈ office, ∃ relation ∈ owner.relations,
          (relation.kind = .hasMany ∨ relation.kind = .hasOne) ∧
            Text.sameFold table.name relation.table = true ∧ relation.foreignKey = column.name) ∧
      column.foreignTable = (firstClaim? office table column.name).map (·.table) ∧
      column.foreignKey = (firstClaim? office table column.name).map (·.key)) ∧
    ∃ read, (modelled "gorm" officeSource).mapM (tableOf .sqlite) = .ok read ∧
      office = markTargets read ∧
      office.map Table.withoutReferences = read.map Table.withoutReferences := by
  have hread : parse officeSource .sqlite "gorm" = .ok office := by
    -- the kernel reads a list of characters at once, but not the encoding of a joined text
    unfold parse officeSource
    iterate 5 rw [String.toList_append]
    iterate 6 rw [String.toList_ofList]
    decide +kernel
  have hdistinct : DistinctFolds (office.map (·.name)) := by
    unfold DistinctFolds
    decide
  exact ⟨⟨hread, hdistinct⟩, references_of_parse hread hdistinct⟩

end Models

end RelSchema
