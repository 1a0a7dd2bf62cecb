import Mathlib.Tactic.Common
import RelSchema.Schema.Table

/-!
# Checked tables

A table passes its check exactly if each of its columns and relations keeps its rule, and then it is
left as it is.
-/

namespace RelSchema

theorem Column.problem?_eq_none_iff {column : Column} :
    column.problem? = none ↔ column.Consistent := by
  rw [problem?]
  split_ifs with h <;> simp [h]

theorem Relation.problem?_eq_none_iff {relation : Relation} :
    relation.problem? = none ↔ relation.Consistent := by
  rw [problem?]
  split_ifs with h <;> simp [h]

theorem memberFaults_eq_nil_iff {α : Type} {problem? : α → Option Problem} {start : Nat}
    {members : List α} :
    memberFaults problem? start members = [] ↔ ∀ a ∈ members, problem? a = none := by
  induction members generalizing start with
  | nil => simp [memberFaults]
  | cons a members ih =>
      rw [memberFaults]
      cases ha : problem? a with
      | none => simpa [ha] using ih
      | some problem => simp [ha]

variable {f : Column → Column}

theorem columnSpelling_map (hname : ∀ column, (f column).name = column.name)
    (columns : List Column) (name : String) :
    columnSpelling (columns.map f) name = columnSpelling columns name := by
  have hnames : (fun column : Column => column.name) ∘ f = fun column => column.name := funext hname
  have hsame : (fun column : Column => Text.sameFold column.name name) ∘ f
      = fun column => Text.sameFold column.name name := by
    funext column
    rw [Function.comp_apply, hname]
  unfold columnSpelling
  rw [← List.map_reverse, List.find?_map, Option.map_map, hnames, hsame]

/-- The key depends on the names and the marks of the columns only. -/
theorem primaryKeyOrder_map (hname : ∀ column, (f column).name = column.name)
    (hmark : ∀ column, (f column).isPrimaryKey = column.isPrimaryKey) (columns : List Column)
    (declared : List String) :
    primaryKeyOrder (columns.map f) declared = primaryKeyOrder columns declared := by
  have hnames : (fun column : Column => column.name) ∘ f = fun column => column.name := funext hname
  have hmarks : (fun column : Column => column.isPrimaryKey) ∘ f
      = fun column => column.isPrimaryKey := funext hmark
  unfold primaryKeyOrder
  by_cases hdeclared : declared.isEmpty = true
  · rw [if_pos hdeclared, if_pos hdeclared, List.filter_map, List.map_map, hnames, hmarks]
  · rw [if_neg hdeclared, if_neg hdeclared, funext (columnSpelling_map hname columns)]

namespace Table

theorem faults_eq_nil_iff {table : Table} :
    table.faults = [] ↔ (∀ column ∈ table.columns, column.Consistent) ∧
      ∀ relation ∈ table.relations, relation.Consistent := by
  rw [faults, List.append_eq_nil_iff, List.map_eq_nil_iff, List.map_eq_nil_iff,
    memberFaults_eq_nil_iff, memberFaults_eq_nil_iff]
  simp only [Column.problem?_eq_none_iff, Relation.problem?_eq_none_iff]

/-- A table passes its check unchanged, and only if all its members keep their rules. -/
theorem checked_eq_ok_iff {table found : Table} :
    table.checked = .ok found ↔ found = table ∧
      (∀ column ∈ table.columns, column.Consistent) ∧
      ∀ relation ∈ table.relations, relation.Consistent := by
  rw [checked, ← faults_eq_nil_iff]
  constructor
  · intro h
    split_ifs at h with hfaults
    exact ⟨(Except.ok.inj h).symm, List.isEmpty_iff.mp hfaults⟩
  · rintro ⟨rfl, hfaults⟩
    rw [hfaults]
    rfl

theorem faults_of_checked {table found : Table} (h : table.checked = .ok found) :
    found.faults = [] := by
  obtain ⟨rfl, hrules⟩ := checked_eq_ok_iff.mp h
  exact faults_eq_nil_iff.mpr hrules

end Table

end RelSchema
