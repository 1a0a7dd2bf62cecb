import RelSchema.Format
import RelSchema.Proofs.Data.Decode
import RelSchema.Proofs.Json.RoundTrip

/-!
# Dumps of schemas

A schema with a table is read back from its dump in JSON, whatever its texts hold. The reader takes
integers of so many digits only, while a row count may have more: the schema comes back exactly if
each of its row counts is short enough.
-/

namespace RelSchema

open Data
open Json (ReadsWhen nestingLimit)

theorem Data.readsWhen_ofOptionalText (depth : Nat) (text? : Option String) :
    ReadsWhen depth (ofOptionalText text?) True := by
  cases text? with
  | none => exact .null depth
  | some s => exact .text depth s

theorem Data.readsWhen_ofTexts {depth : Nat} (hdepth : depth < nestingLimit) (texts : List String) :
    ReadsWhen depth (ofTexts texts) True :=
  (ReadsWhen.list hdepth fun s _ => .text _ s).congr (by simp)

theorem Column.readsWhen_toData {depth : Nat} (hdepth : depth < nestingLimit) (column : Column) :
    ReadsWhen depth column.toData True := by
  refine (ReadsWhen.fields hdepth (by simp) (.cons (.text _ _) <| .cons (.text _ _) <|
    .cons (readsWhen_ofOptionalText _ _) <| .cons (.bool _ _) <| .cons (.bool _ _) <|
    .cons (.bool _ _) <| .cons (readsWhen_ofOptionalText _ _) <|
    .cons (readsWhen_ofOptionalText _ _) <| .cons (readsWhen_ofOptionalText _ _) .nil)).congr ?_
  simp

theorem Relation.readsWhen_toData {depth : Nat} (hdepth : depth < nestingLimit)
    (relation : Relation) : ReadsWhen depth relation.toData True := by
  refine (ReadsWhen.fields hdepth (by simp) (.cons (.text _ _) <| .cons (.text _ _) <|
    .cons (.text _ _) <| .cons (.text _ _) <| .cons (.text _ _) <|
    .cons (readsWhen_ofOptionalText _ _) .nil)).congr ?_
  simp

def Table.HasReadableCount (table : Table) : Prop :=
  (Nat.toDigits 10 table.rowCount.natAbs).length ≤ Number.digitLimit

instance (table : Table) : Decidable table.HasReadableCount :=
  inferInstanceAs (Decidable (_ ≤ _))

theorem Table.readsWhen_toData {depth : Nat} (hdepth : depth + 2 < nestingLimit) (table : Table) :
    ReadsWhen depth table.toData table.HasReadableCount := by
  have hlist : depth + 1 < nestingLimit := Nat.lt_of_succ_lt hdepth
  refine (ReadsWhen.fields (Nat.lt_of_succ_lt hlist) (by simp) (.cons (.text _ _) <|
    .cons (.list hlist fun column _ => column.readsWhen_toData hdepth) <|
    .cons (.list hlist fun relation _ => relation.readsWhen_toData hdepth) <|
    .cons (readsWhen_ofTexts hlist _) <| .cons (.int _ _) .nil)).congr ?_
  simp [HasReadableCount]

namespace Snapshot

theorem readsWhen_toData (snapshot : Snapshot) :
    ReadsWhen 0 snapshot.toData (∀ table ∈ snapshot.tables, table.HasReadableCount) := by
  refine (ReadsWhen.fields (by decide) (by simp) (.cons
    (.list (by decide) fun table _ => table.readsWhen_toData (by decide)) <|
    .cons (.text _ _) <| .cons (.text _ _) .nil)).congr ?_
  simp

theorem ofDump_toData {snapshot : Snapshot}
    (hrules : ∀ table ∈ snapshot.tables, table.faults = []) :
    ofDump snapshot.toData = .ok snapshot := by
  have hrecord : dumpRecord snapshot.toData = snapshot.toData := rfl
  rw [ofDump, hrecord, ofData_toData hrules, Checked.toExcept]

theorem load_json_of_ok {text : String} {data : Data} (hread : Json.read text = .ok data)
    {snapshot : Snapshot} (hdump : ofDump data = .ok snapshot) (htables : snapshot.tables ≠ [])
    (tag : String) : load text "json" none tag = .ok snapshot := by
  have hsnapshot : read .json none tag text = .ok snapshot := by
    unfold read
    simp only [hread, Except.mapError, hdump, bind, Except.bind]
    rfl
  change (read .json none tag text >>= _) = _
  rw [hsnapshot]
  exact if_neg fun hempty => htables (List.isEmpty_iff.mp hempty)

theorem load_json_of_error {text : String} {fault : Json.Fault}
    (hread : Json.read text = .error fault) (tag : String) :
    load text "json" none tag = .error (.json fault) := by
  have hfailure : read .json none tag text = .error (.json fault) := by
    unfold read
    simp only [hread, Except.mapError, bind, Except.bind]
  change (read .json none tag text >>= _) = _
  rw [hfailure]
  rfl

/-- A schema comes back from its dump if its row counts are readable, and otherwise the dump is not
read. -/
theorem gives_load_dump {snapshot : Snapshot} (htables : snapshot.tables ≠ [])
    (hrules : ∀ table ∈ snapshot.tables, table.faults = []) (tag : String) :
    Json.Gives (snapshot.dump "json" >>= fun text => load text "json" none tag)
      (∀ table ∈ snapshot.tables, table.HasReadableCount) snapshot := by
  have hread := Json.gives_read_write snapshot.readsWhen_toData
  change Json.Gives (load (Json.write snapshot.toData) "json" none tag) _ _
  constructor
  · intro hcounts
    exact load_json_of_ok (hread.ok hcounts) (ofDump_toData hrules) htables tag
  · intro hcounts
    obtain ⟨fault, hfault⟩ := hread.error hcounts
    exact ⟨.json fault, load_json_of_error hfault tag⟩

/-- A schema with a table, of which the columns and relations keep their rules, comes back from its
dump exactly if no row count is too long to be read. -/
theorem load_dump_json_iff {snapshot : Snapshot} (htables : snapshot.tables ≠ [])
    (hrules : ∀ table ∈ snapshot.tables, table.faults = []) (tag : String) :
    (snapshot.dump "json" >>= fun text => load text "json" none tag) = .ok snapshot ↔
      ∀ table ∈ snapshot.tables, table.HasReadableCount :=
  (gives_load_dump htables hrules tag).ok_iff

/-- Two tables whose texts hold quotes, escapes, control characters and characters beyond the first
plane, and whose row counts are beyond all machine words. -/
def archive : Snapshot where
  tables := [
    { name := "\"quoted\" \\u0041\n"
      columns := [
        { name := "naïve 🗄", type := "TEXT", declaredType := some "", isNullable := false,
          defaultValue := some "'\x01\x1f\t'" },
        { name := "", isForeignKey := true, foreignTable := some "]\x7d", foreignKey := some "\\" }]
      relations := [
        { name := "tags", kind := .manyToMany, table := "\ufeff", joinTable := some "\u2028/" },
        { name := "owner", kind := .belongsTo, table := "", foreignKey := "\x7f" }]
      primaryKeys := ["", "naïve 🗄"]
      rowCount := 340282366920938463463374607431768211456 },
    { name := "", rowCount := -18446744073709551616 }]
  driver := "sqlite"
  database := ":memory:"

theorem load_dump_json_archive :
    archive.tables ≠ [] ∧ (∀ table ∈ archive.tables, table.faults = []) ∧
      (archive.dump "json" >>= fun text => load text "json" none "gorm") = .ok archive := by
  have htables : archive.tables ≠ [] := by decide
  have hrules : ∀ table ∈ archive.tables, table.faults = [] := by decide
  exact ⟨htables, hrules, (load_dump_json_iff htables hrules "gorm").mpr (by decide)⟩

/-- A table with one digit more in its row count than is read. -/
def crowded : Snapshot where
  tables := [
    { name := "events", columns := [{ name := "id", type := "INT" }],
      rowCount := Nat.pow 10 Number.digitLimit }]

theorem load_dump_json_crowded :
    crowded.tables ≠ [] ∧ (∀ table ∈ crowded.tables, table.faults = []) ∧
      (crowded.dump "json" >>= fun text => load text "json" none "gorm") ≠ .ok crowded := by
  have htables : crowded.tables ≠ [] := List.cons_ne_nil _ _
  have hrules : ∀ table ∈ crowded.tables, table.faults = [] := by
    intro table htable
    rw [List.mem_singleton.mp htable]
    decide
  have hcount : ¬∀ table ∈ crowded.tables, table.HasReadableCount := by
    intro hall
    have hlength := hall _ List.mem_cons_self
    rw [Table.HasReadableCount, Int.natAbs_natCast,
      Nat.length_toDigits_le_iff (by decide) (by decide), Nat.pow_eq] at hlength
    generalize 10 ^ Number.digitLimit = count at hlength
    exact lt_irrefl count hlength
  exact ⟨htables, hrules, mt (gives_load_dump htables hrules "gorm").ok_iff.mp hcount⟩

end Snapshot

end RelSchema
