import RelSchema.Proofs.Catalog.Table
import RelSchema.Proofs.Ddl.Key

/-!
# Logical tables

A logical table has columns, a key in some order, and references, of which several may start at one
column. A catalog tells it by rows: SQLite numbers the places of the key with the columns and gives
a row to each reference only, and the other two mix the rows of the key, which name no table, with
those of the references. Whichever way it is told, the key is read back in order, and a column
refers to what one of its references tells: the first one on PostgreSQL, the last one on the others.
-/

namespace RelSchema

open Ddl (DistinctFolds)

structure LogicalColumn where
  name : String
  type : Option String
  isNullable : Bool
  defaultValue : Data

structure LogicalReference where
  column : String
  table : String
  key : Option String
  table_ne : table ≠ ""

def LogicalReference.target (reference : LogicalReference) : Target :=
  (reference.table, reference.key)

structure LogicalTable where
  columns : List LogicalColumn
  key : List String
  references : List LogicalReference
  distinct : DistinctFolds (columns.map (·.name))
  key_nodup : key.Nodup
  key_subset : key ⊆ columns.map (·.name)

/-- The place of a name in the key, counted from one; zero for no place. -/
def keyPlace (key : List String) (name : String) : Int :=
  if name ∈ key then (key.idxOf name + 1 : Nat) else 0

def LogicalColumn.row (dialect : Dialect) (key : List String) (column : LogicalColumn) :
    ColumnRow :=
  match dialect with
  | .sqlite => .ofFlags column.name column.type (.int (if column.isNullable then 0 else 1))
      column.defaultValue (keyPlace key column.name)
  | .postgres | .mysql => .ofWord column.name column.type
      (if column.isNullable then "YES" else "NO") column.defaultValue

def LogicalReference.row (label : String) (reference : LogicalReference) : KeyRow where
  label
  column := reference.column
  table := some reference.table
  target := reference.key

def primaryRow (label name : String) : KeyRow where
  label
  column := name

def KeyRow.isPrimary (dialect : Dialect) (row : KeyRow) : Bool :=
  match dialect with
  | .sqlite => false
  | .postgres => row.label == "PRIMARY KEY"
  | .mysql => row.label == "PRIMARY"

namespace LogicalTable

/-- The rows tell the columns, the key and the references in order. Rows of the key may stand
between those of the references. -/
structure IsToldBy (table : LogicalTable) (dialect : Dialect) (columns : List ColumnRow)
    (keys : List KeyRow) : Prop where
  columns_eq : columns = table.columns.map (·.row dialect table.key)
  primary_eq : dialect ≠ .sqlite →
    (keys.filter (·.isPrimary dialect)).map (fun row => (row.column, row.table))
      = table.key.map fun name => (name, none)
  references_eq : (keys.filter (!·.isPrimary dialect)).map
      (fun row => (row.column, row.table, row.target))
    = table.references.map fun reference => (reference.column, some reference.table, reference.key)

/-- Rows that tell the table, those of the key before those of the references. -/
def keyRows (table : LogicalTable) : Dialect → List KeyRow
  | .sqlite => table.references.map (·.row "")
  | .postgres => table.key.map (primaryRow "PRIMARY KEY") ++
      table.references.map (·.row "FOREIGN KEY")
  | .mysql => table.key.map (primaryRow "PRIMARY") ++ table.references.map (·.row "reference")

theorem isToldBy_keyRows (table : LogicalTable) (dialect : Dialect) :
    table.IsToldBy dialect (table.columns.map (·.row dialect table.key))
      (table.keyRows dialect) := by
  refine ⟨rfl, fun hdialect => ?_, ?_⟩
  · cases dialect with
    | sqlite => exact absurd rfl hdialect
    | postgres | mysql =>
        simp [keyRows, primaryRow, LogicalReference.row, KeyRow.isPrimary, List.filter_map,
          Function.comp_def]
  · cases dialect <;>
      simp [keyRows, primaryRow, LogicalReference.row, KeyRow.isPrimary, List.filter_map,
        Function.comp_def]

def firstReference? (table : LogicalTable) (name : String) : Option LogicalReference :=
  table.references.find? (·.column == name)

def lastReference? (table : LogicalTable) (name : String) : Option LogicalReference :=
  table.references.reverse.find? (·.column == name)

def reference? (table : LogicalTable) (dialect : Dialect) (name : String) :
    Option LogicalReference :=
  match dialect with
  | .postgres => table.firstReference? name
  | .sqlite | .mysql => table.lastReference? name

section Key

variable {key : List String}

theorem keyPlace_of_mem {name : String} (h : name ∈ key) :
    keyPlace key name = (key.idxOf name + 1 : Nat) :=
  if_pos h

theorem keyPlace_ne_zero_iff {name : String} : keyPlace key name ≠ 0 ↔ name ∈ key := by
  unfold keyPlace
  split_ifs with h
  · exact iff_of_true (by omega) h
  · exact iff_of_false (fun hne => hne rfl) h

/-- Along a key without repetitions the places increase. -/
theorem pairwise_keyPlace (hnodup : key.Nodup) :
    (key.map fun name => (name, keyPlace key name)).Pairwise fun a b => a.2 ≤ b.2 := by
  rw [List.pairwise_map, List.pairwise_iff_getElem]
  intro i j hi hj hij
  rw [keyPlace_of_mem (List.getElem_mem hi), keyPlace_of_mem (List.getElem_mem hj),
    hnodup.idxOf_getElem i hi, hnodup.idxOf_getElem j hj]
  omega

/-- Names with their places in the key, put in order, are the names of the key. -/
theorem mergeSort_keyPlace (hnodup : key.Nodup) {names : List String} (hperm : names.Perm key) :
    (names.map fun name => (name, keyPlace key name)).mergeSort (fun a b => a.2 ≤ b.2)
      = key.map fun name => (name, keyPlace key name) := by
  have hsorted := @List.pairwise_mergeSort (String × Int) (fun a b => a.2 ≤ b.2)
    (fun a b c hab hbc => by simp only [decide_eq_true_eq] at hab hbc ⊢; omega)
    (fun a b => by simp only [Bool.or_eq_true, decide_eq_true_eq]; omega)
    (names.map fun name => (name, keyPlace key name))
  simp only [decide_eq_true_eq] at hsorted
  have hsame : ((names.map fun name => (name, keyPlace key name)).mergeSort
      fun a b => a.2 ≤ b.2).Perm (key.map fun name => (name, keyPlace key name)) :=
    (List.mergeSort_perm _ _).trans (hperm.map _)
  -- Two sorted permutations are equal where the order is antisymmetric, which places are on the key.
  refine List.Perm.eq_of_pairwise ?_ hsorted (pairwise_keyPlace hnodup) hsame
  intro a b ha hb hab hba
  obtain ⟨name, hname, rfl⟩ := List.mem_map.mp (hsame.mem_iff.mp ha)
  obtain ⟨other, hother, rfl⟩ := List.mem_map.mp hb
  have hplace : keyPlace key name = keyPlace key other := Int.le_antisymm hab hba
  rw [keyPlace_of_mem hname, keyPlace_of_mem hother] at hplace
  have hindex : key.idxOf name = key.idxOf other := by omega
  rw [(List.idxOf_inj hname).mp hindex]

end Key

variable {table : LogicalTable} {dialect : Dialect} {columns : List ColumnRow} {keys : List KeyRow}

theorem keyNames_eq (table : LogicalTable) :
    ColumnRow.keyNames (table.columns.map (·.row .sqlite table.key)) = table.key := by
  have hrows : ((table.columns.map (·.row .sqlite table.key)).filter (·.keyPlace != 0)).map
      (fun row => (row.name, row.keyPlace))
      = ((table.columns.map (·.name)).filter (· ∈ table.key)).map
        fun name => (name, keyPlace table.key name) := by
    rw [List.filter_map, List.filter_map, List.map_map, List.map_map]
    have hkeep : ∀ column ∈ table.columns, ((fun row : ColumnRow => row.keyPlace != 0) ∘
        (·.row .sqlite table.key)) column
        = ((fun name => decide (name ∈ table.key)) ∘ (·.name)) column := by
      intro column _
      rw [Bool.eq_iff_iff, Function.comp_apply, Function.comp_apply, bne_iff_ne,
        decide_eq_true_eq]
      exact keyPlace_ne_zero_iff
    rw [List.filter_congr hkeep]
    rfl
  have hnodup : ((table.columns.map (·.name)).filter (· ∈ table.key)).Nodup :=
    table.distinct.nodup.filter _
  have hperm : ((table.columns.map (·.name)).filter (· ∈ table.key)).Perm table.key := by
    rw [List.perm_ext_iff_of_nodup hnodup table.key_nodup]
    intro name
    rw [List.mem_filter, decide_eq_true_eq]
    exact ⟨And.right, fun hname => ⟨table.key_subset hname, hname⟩⟩
  unfold ColumnRow.keyNames
  dsimp only
  rw [hrows, Keyed.ofList_eq_self (by rw [List.map_map]; exact List.map_id _ ▸ hnodup),
    mergeSort_keyPlace table.key_nodup hperm, List.map_map]
  exact List.map_id _

namespace IsToldBy

theorem map_column (h : table.IsToldBy dialect columns keys) (hdialect : dialect ≠ .sqlite) :
    (keys.filter (·.isPrimary dialect)).map (·.column) = table.key := by
  have hnames := congrArg (List.map (·.1)) (h.primary_eq hdialect)
  rw [List.map_map, List.map_map] at hnames
  exact hnames.trans (List.map_id _)

/-- The key is read back in order. -/
theorem primaryKey_eq (h : table.IsToldBy dialect columns keys) :
    KeyRow.primaryKey dialect columns keys = table.key := by
  cases dialect with
  | sqlite =>
      rw [h.columns_eq]
      exact table.keyNames_eq
  | postgres =>
      have hnames : (keys.filter (·.label == "PRIMARY KEY")).map (·.column) = table.key :=
        h.map_column Dialect.noConfusion
      rw [KeyRow.primaryKey, hnames, Ddl.distinct_eq_self table.key_nodup]
  | mysql => exact h.map_column Dialect.noConfusion

/-- Apart from SQLite, the rows that name a table are those of the references. -/
theorem isGiven_table (h : table.IsToldBy dialect columns keys) (hdialect : dialect ≠ .sqlite)
    {row : KeyRow} (hrow : row ∈ keys) : isGiven row.table = !row.isPrimary dialect := by
  cases hprimary : row.isPrimary dialect with
  | true =>
      have hmem : (row.column, row.table) ∈ table.key.map fun name => (name, none) := by
        rw [← h.primary_eq hdialect]
        exact List.mem_map_of_mem (List.mem_filter.mpr ⟨hrow, hprimary⟩)
      obtain ⟨name, -, hname⟩ := List.mem_map.mp hmem
      rw [← (Prod.mk.inj hname).2]
      rfl
  | false =>
      have hmem : (row.column, row.table, row.target) ∈ table.references.map fun reference =>
          (reference.column, some reference.table, reference.key) := by
        rw [← h.references_eq]
        exact List.mem_map_of_mem (List.mem_filter.mpr ⟨hrow, by rw [hprimary]; rfl⟩)
      obtain ⟨reference, -, hreference⟩ := List.mem_map.mp hmem
      have htable : some reference.table = row.table := congrArg (·.2.1) hreference
      rw [← htable]
      exact bne_iff_ne.mpr reference.table_ne

theorem map_entry (h : table.IsToldBy dialect columns keys) :
    (keys.filter (!·.isPrimary dialect)).map KeyRow.entry
      = table.references.map fun reference => (reference.column, reference.target) := by
  have htold := congrArg (List.map fun told : String × Option String × Option String =>
    (told.1, (told.2.1.getD "", told.2.2))) h.references_eq
  rwa [List.map_map, List.map_map] at htold

/-- Of several references of a column PostgreSQL reads the first one, the others read the last
one. -/
theorem get?_targets (h : table.IsToldBy dialect columns keys) (name : String) :
    (KeyRow.targets dialect keys).get? name = (table.reference? dialect name).map (·.target) := by
  have hentries := h.map_entry
  have hfound := Keyed.get?_map LogicalReference.column LogicalReference.target
  cases dialect with
  | sqlite =>
      have hall : keys.filter (!·.isPrimary .sqlite) = keys :=
        List.filter_eq_self.mpr fun _ _ => rfl
      rw [hall] at hentries
      rw [KeyRow.targets, hentries, ← List.map_reverse, hfound]
      rfl
  | postgres =>
      have hkept : ∀ row ∈ keys, (row.label != "PRIMARY KEY" && isGiven row.table)
          = !row.isPrimary .postgres := by
        intro row hrow
        rw [h.isGiven_table Dialect.noConfusion hrow]
        exact Bool.and_self _
      rw [KeyRow.targets, List.filter_congr hkept, hentries, hfound]
      rfl
  | mysql =>
      have hkept : ∀ row ∈ keys, isGiven row.table = !row.isPrimary .mysql :=
        fun row hrow => h.isGiven_table Dialect.noConfusion hrow
      rw [KeyRow.targets, List.filter_congr hkept, hentries, ← List.map_reverse, hfound]
      rfl

end IsToldBy

end LogicalTable

end RelSchema
