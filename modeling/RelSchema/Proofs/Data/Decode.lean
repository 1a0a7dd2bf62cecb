import Mathlib.Tactic.Common
import RelSchema.Data.Decode
import RelSchema.Data.Encode
import RelSchema.Proofs.Schema.Table

/-!
# Schemas as data

What is written as data is read from it again: a column and a relation if they keep their rules, and
tables and snapshots if all their columns and relations do.
-/

namespace RelSchema

open Data

theorem Checked.members_map {α : Type} {check : Data → Checked α} {toData : α → Data}
    {elements : List α} (h : ∀ a ∈ elements, check (toData a) = .valid a) (start : Nat) :
    members check start (elements.map toData) = .valid elements := by
  induction elements generalizing start with
  | nil => rfl
  | cons a elements ih =>
      rw [List.map_cons, members, h a List.mem_cons_self,
        ih (fun b hb => h b (List.mem_cons_of_mem a hb))]
      rfl

namespace Data

theorem member?_ofFields (fields : List (String × Data)) (name : String) :
    member? (fields.map fun (name, value) => (text name, value)) name
      = (fields.find? (·.1 == name)).map (·.2) := by
  rw [member?, List.find?_map, Option.map_map]
  rfl

theorem asOptionalText_ofOptionalText (text? : Option String) :
    (ofOptionalText text?).asOptionalText = .valid text? := by
  cases text? with
  | none => rfl
  | some s => rfl

theorem asTuple_map {α : Type} {check : Data → Checked α} {toData : α → Data} {elements : List α}
    (h : ∀ a ∈ elements, check (toData a) = .valid a) :
    asTuple check (.list (elements.map toData)) = .valid elements :=
  Checked.members_map h 0

theorem asTuple_ofTexts (texts : List String) : asTuple asText (ofTexts texts) = .valid texts :=
  asTuple_map fun _ _ => rfl

end Data

theorem Column.ofData_toData {column : Column} (h : column.Consistent) :
    ofData column.toData = .valid column := by
  rw [toData, ofFields, ofData, asRecord]
  simp only [required, withDefault, member?_ofFields, List.find?_cons, String.reduceBEq,
    Option.map_some, asOptionalText_ofOptionalText]
  change Checked.ensure problem? (.valid column) = .valid column
  rw [Checked.ensure, problem?_eq_none_iff.mpr h]

theorem RelationKind.ofName?_name (kind : RelationKind) : ofName? kind.name = some kind := by
  cases kind <;> rfl

theorem RelationKind.ofData_name (kind : RelationKind) :
    ofData (.text kind.name) = .valid kind := by
  rw [ofData, ofName?_name]

theorem Relation.ofData_toData {relation : Relation} (h : relation.Consistent) :
    ofData relation.toData = .valid relation := by
  rw [toData, ofFields, ofData, asRecord]
  simp only [required, withDefault, member?_ofFields, List.find?_cons, String.reduceBEq,
    Option.map_some, RelationKind.ofData_name, asOptionalText_ofOptionalText]
  change Checked.ensure problem? (.valid relation) = .valid relation
  rw [Checked.ensure, problem?_eq_none_iff.mpr h]

theorem Table.ofData_toData {table : Table} (h : table.faults = []) :
    ofData table.toData = .valid table := by
  obtain ⟨hcolumns, hrelations⟩ := faults_eq_nil_iff.mp h
  rw [toData, ofFields, ofData, asRecord]
  simp only [required, withDefault, member?_ofFields, List.find?_cons, String.reduceBEq,
    Option.map_some, asTuple_ofTexts,
    asTuple_map fun column hcolumn => Column.ofData_toData (hcolumns column hcolumn),
    asTuple_map fun relation hrelation => Relation.ofData_toData (hrelations relation hrelation)]
  rfl

theorem Snapshot.ofData_toData {snapshot : Snapshot}
    (h : ∀ table ∈ snapshot.tables, table.faults = []) :
    ofData snapshot.toData = .valid snapshot := by
  rw [toData, ofFields, ofData, asRecord]
  simp only [withDefault, member?_ofFields, List.find?_cons, String.reduceBEq, Option.map_some,
    asTuple_map fun table htable => Table.ofData_toData (h table htable)]
  rfl

end RelSchema
