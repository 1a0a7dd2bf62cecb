import Mathlib.Tactic.Common
import RelSchema.Catalog.Inspection
import RelSchema.Proofs.Catalog.Table
import RelSchema.Proofs.Failure

/-!
# Failures of single tables

The tables are described in one loop and counted in a second one, and a failure in either costs one
rollback and nothing else: what the loops come to is what they come to for the tables without a
failure. So it does not matter which tables fail and where they stand. The counts are joined to the
tables by name, and since the count of a name depends on the name only, no two tables need different
names for that.
-/

namespace RelSchema

namespace Outcome

variable {α β : Type}

theorem result_bind (outcome : Outcome α) (next : α → Outcome β) :
    (outcome >>= next).result = outcome.result >>= fun a => (next a).result := by
  obtain ⟨result, rollbacks⟩ := outcome
  cases result <;> rfl

theorem rollbacks_bind {outcome : Outcome α} {a : α} (h : outcome.result = .ok a)
    (next : α → Outcome β) :
    (outcome >>= next).rollbacks = outcome.rollbacks + (next a).rollbacks := by
  obtain ⟨result, rollbacks⟩ := outcome
  subst h
  rfl

theorem bind_of_ok (a : α) (rollbacks : Nat) (next : α → Outcome β) :
    ((⟨.ok a, rollbacks⟩ : Outcome α) >>= next)
      = ⟨(next a).result, rollbacks + (next a).rollbacks⟩ :=
  rfl

theorem of_ok_pure (a : α) : Outcome.of (.ok a) = pure a :=
  rfl

theorem of_ok_bind (a : α) (next : α → Outcome β) : (Outcome.of (.ok a) >>= next) = next a :=
  congrArg (Outcome.mk (next a).result) (Nat.zero_add _)

end Outcome

namespace Inspection

/-- Whether the columns and keys of the table can be read. -/
def isReadable (inspection : Inspection) (name : String) : Bool :=
  !inspection.catalog.failing.contains name

/-- What the catalog counts in the table; nothing if the query for it fails. -/
def counted? (inspection : Inspection) (dialect : Dialect) (name : String) : Option (Option Int) :=
  inspection.catalog.counts.get? (Naming.quoteIdentifier dialect name)

/-- The number of rows of the table, which is zero if the query for it fails or finds none. -/
def rowCount (inspection : Inspection) (dialect : Dialect) (name : String) : Int :=
  (inspection.counted? dialect name).join.getD 0

def resets (inspection : Inspection) (failures : Nat) : Nat :=
  if inspection.catalog.isInTransaction then failures else 0

variable {inspection : Inspection}

theorem resets_zero : inspection.resets 0 = 0 := by
  unfold resets
  split_ifs <;> rfl

theorem resets_add (m n : Nat) :
    inspection.resets (m + n) = inspection.resets m + inspection.resets n := by
  unfold resets
  split_ifs <;> rfl

theorem recover_eq {α : Type} (answer : α) :
    inspection.recover answer = ⟨.ok answer, inspection.resets 1⟩ :=
  rfl

variable {dialect : Dialect} {name : String}

theorem describe_of_isReadable (hdialect : inspection.dialect = .ok dialect)
    (hname : inspection.isReadable name = true) :
    inspection.describe name = Table.ofRows dialect name (inspection.catalog.columnRows name)
      (inspection.catalog.keyRows name) := by
  have hfailing : ¬ inspection.catalog.failing.contains name = true := by
    simpa [isReadable] using hname
  unfold describe
  rw [hdialect]
  exact if_neg hfailing

theorem describeIfReadable_of_isReadable (hdialect : inspection.dialect = .ok dialect)
    (hname : inspection.isReadable name = true) :
    inspection.describeIfReadable name
      = .of ((inspection.describe name).map fun table => [table]) := by
  unfold describeIfReadable
  rw [describe_of_isReadable hdialect hname, Table.ofRows, Table.checked]
  split_ifs <;> rfl

theorem describe_of_not_isReadable (hdialect : inspection.dialect = .ok dialect)
    (hname : ¬ inspection.isReadable name = true) :
    inspection.describe name = .error (.database "catalog read failed") := by
  have hfailing : inspection.catalog.failing.contains name = true := by
    simpa [isReadable] using hname
  unfold describe
  rw [hdialect]
  exact if_pos hfailing

theorem describeIfReadable_of_not_isReadable (hdialect : inspection.dialect = .ok dialect)
    (hname : ¬ inspection.isReadable name = true) :
    inspection.describeIfReadable name = ⟨.ok [], inspection.resets 1⟩ := by
  unfold describeIfReadable
  rw [describe_of_not_isReadable hdialect hname]
  exact recover_eq []

theorem rollbacks_describeIfReadable (hdialect : inspection.dialect = .ok dialect) (name : String) :
    (inspection.describeIfReadable name).rollbacks
      = inspection.resets (if !inspection.isReadable name then 1 else 0) := by
  by_cases hname : inspection.isReadable name = true
  · rw [describeIfReadable_of_isReadable hdialect hname, hname, if_neg (by decide), resets_zero]
    rfl
  · rw [describeIfReadable_of_not_isReadable hdialect hname, if_pos (by simpa using hname)]

/-- The loop comes to what the readable tables alone come to. -/
theorem result_describeAll (hdialect : inspection.dialect = .ok dialect) (names : List String) :
    (inspection.describeAll names).result
      = (names.filter inspection.isReadable).mapM inspection.describe := by
  induction names with
  | nil => rfl
  | cons name names ih =>
      unfold describeAll
      rw [Outcome.result_bind]
      simp only [Outcome.result_bind, ih]
      by_cases hname : inspection.isReadable name = true
      · rw [describeIfReadable_of_isReadable hdialect hname, List.filter_cons_of_pos hname,
          List.mapM_cons]
        cases inspection.describe name with
        | error failure => rfl
        | ok table => rfl
      · rw [describeIfReadable_of_not_isReadable hdialect hname, List.filter_cons_of_neg hname]
        cases (names.filter inspection.isReadable).mapM inspection.describe with
        | error failure => rfl
        | ok tables => rfl

theorem rollbacks_describeAll (hdialect : inspection.dialect = .ok dialect) {names : List String}
    {tables : List Table} (h : (inspection.describeAll names).result = .ok tables) :
    (inspection.describeAll names).rollbacks
      = inspection.resets (names.countP (!inspection.isReadable ·)) := by
  induction names generalizing tables with
  | nil => exact resets_zero.symm
  | cons name names ih =>
      unfold describeAll at h ⊢
      rw [Outcome.result_bind] at h
      obtain ⟨first, hfirst, hbehind⟩ := bind_eq_ok_iff.mp h
      rw [Outcome.result_bind] at hbehind
      obtain ⟨rest, hrest, -⟩ := bind_eq_ok_iff.mp hbehind
      -- Since the loop has come to an end, so have its first table and the rest.
      rw [Outcome.rollbacks_bind hfirst, Outcome.rollbacks_bind hrest, ih hrest, List.countP_cons,
        Nat.add_comm (names.countP _), resets_add, rollbacks_describeIfReadable hdialect]
      rfl

theorem count_eq (hdialect : inspection.dialect = .ok dialect) (name : String) :
    inspection.count name = ⟨.ok (inspection.rowCount dialect name),
      inspection.resets (if (inspection.counted? dialect name).isNone then 1 else 0)⟩ := by
  unfold count rowCount
  rw [hdialect, Outcome.of_ok_bind, ← counted?]
  cases inspection.counted? dialect name with
  | none => rfl
  | some count => exact congrArg (Outcome.mk (.ok (count.getD 0))) resets_zero.symm

theorem countAll_eq (hdialect : inspection.dialect = .ok dialect) (names : List String) :
    inspection.countAll names
      = ⟨.ok (names.map fun name => (name, inspection.rowCount dialect name)),
        inspection.resets
          (names.countP fun name => (inspection.counted? dialect name).isNone)⟩ := by
  induction names with
  | nil => exact congrArg (Outcome.mk (.ok [])) resets_zero.symm
  | cons name names ih =>
      unfold countAll
      rw [count_eq hdialect, ih, List.countP_cons, Nat.add_comm (names.countP _), resets_add]
      rfl

theorem counts_some (hdialect : inspection.dialect = .ok dialect) (names : List String) :
    inspection.counts (some names)
      = ⟨.ok (.ofList (names.map fun name => (name, inspection.rowCount dialect name))),
        inspection.resets
          (names.countP fun name => (inspection.counted? dialect name).isNone)⟩ := by
  unfold counts
  dsimp only
  rw [← Outcome.of_ok_pure, Outcome.of_ok_bind, countAll_eq hdialect]
  rfl

theorem name_of_describe {table : Table} (hdialect : inspection.dialect = .ok dialect)
    (h : inspection.describe name = .ok table) : table.name = name := by
  by_cases hname : inspection.isReadable name = true
  · rw [describe_of_isReadable hdialect hname] at h
    obtain ⟨-, rfl⟩ := ofRows_eq_ok_iff.mp h
    rfl
  · rw [describe_of_not_isReadable hdialect hname] at h
    cases h

variable {names : List String}

theorem snapshot_of_describeAll (hdialect : inspection.dialect = .ok dialect)
    (hnames : inspection.tableNames = .ok names) {tables : List Table}
    (h : (inspection.describeAll names).result = .ok tables) :
    inspection.snapshot = ⟨.ok {
        tables := tables.map fun table =>
          { table with rowCount := inspection.rowCount dialect table.name }
        driver := dialect.name
        database := inspection.url.database.getD "" },
      inspection.resets (names.countP (!inspection.isReadable ·)
        + (tables.map (·.name)).countP fun name => (inspection.counted? dialect name).isNone)⟩ := by
  have hall : inspection.describeAll names
      = ⟨.ok tables, inspection.resets (names.countP (!inspection.isReadable ·))⟩ := by
    rw [← rollbacks_describeAll hdialect h, ← h]
  have hcounted : (tables.map fun table => { table with rowCount :=
      ((Keyed.ofList ((tables.map (·.name)).map fun name =>
        (name, inspection.rowCount dialect name))).get? table.name).getD 0 })
      = tables.map fun table =>
        { table with rowCount := inspection.rowCount dialect table.name } := by
    refine List.map_congr_left fun table htable => ?_
    rw [Keyed.get?_ofList_map _ (List.mem_map_of_mem htable), Option.getD_some]
  unfold snapshot Inspection.tables
  rw [hnames, Outcome.of_ok_bind, hall, Outcome.bind_of_ok, counts_some hdialect,
    Outcome.bind_of_ok, hdialect, Outcome.of_ok_bind, resets_add, hcounted]
  rfl

theorem exists_describeAll_of_snapshot (hnames : inspection.tableNames = .ok names)
    {snapshot : Snapshot} (h : inspection.snapshot.result = .ok snapshot) :
    ∃ tables, (inspection.describeAll names).result = .ok tables := by
  unfold Inspection.snapshot Inspection.tables at h
  rw [hnames, Outcome.of_ok_bind, Outcome.result_bind] at h
  obtain ⟨tables, htables, -⟩ := bind_eq_ok_iff.mp h
  exact ⟨tables, htables⟩

theorem exists_describeAll_iff (hdialect : inspection.dialect = .ok dialect) (names : List String) :
    (∃ tables, (inspection.describeAll names).result = .ok tables) ↔
      ∀ name ∈ names.filter inspection.isReadable, KeyRow.NamesTargets dialect
        (inspection.catalog.columnRows name) (inspection.catalog.keyRows name) := by
  rw [result_describeAll hdialect, exists_mapM_eq_ok_iff]
  refine forall₂_congr fun name hname => ?_
  rw [describe_of_isReadable hdialect (List.mem_filter.mp hname).2, exists_ofRows_iff]

/-- The tables that are described, with their counts, in the order of their names. -/
theorem map_describe_of_describeAll (hdialect : inspection.dialect = .ok dialect)
    {tables : List Table} (h : (inspection.describeAll names).result = .ok tables) :
    tables.map (·.name) = names.filter inspection.isReadable ∧
      ∀ table ∈ tables, inspection.describe table.name = .ok table := by
  rw [result_describeAll hdialect] at h
  refine ⟨map_eq_of_mapM (fun _ _ => name_of_describe hdialect) h, ?_⟩
  intro table htable
  obtain ⟨name, -, hname⟩ := exists_of_mem_mapM h htable
  rwa [name_of_describe hdialect hname]

/-- A snapshot is taken exactly if the rows of all readable tables name the tables they refer to.
Its tables are then the listed readable ones as they are described, each with its own count, and
every unreadable listed table and every described one without a count costs one rollback. -/
theorem snapshot_isolated (hdialect : inspection.dialect = .ok dialect) :
    ∃ names, inspection.tableNames = .ok names ∧
      ((∃ snapshot, inspection.snapshot.result = .ok snapshot) ↔
        ∀ name ∈ names.filter inspection.isReadable, KeyRow.NamesTargets dialect
          (inspection.catalog.columnRows name) (inspection.catalog.keyRows name)) ∧
      ∀ snapshot, inspection.snapshot.result = .ok snapshot →
        snapshot.tables.map .ok = (names.filter inspection.isReadable).map (fun name =>
          (inspection.describe name).map fun table =>
            { table with rowCount := inspection.rowCount dialect name }) ∧
        inspection.snapshot.rollbacks = if inspection.catalog.isInTransaction then
          names.countP (!inspection.isReadable ·) + (names.filter inspection.isReadable).countP
            fun name => (inspection.counted? dialect name).isNone
          else 0 := by
  obtain ⟨names, hnames⟩ : ∃ names, inspection.tableNames = .ok names := by
    unfold tableNames
    rw [hdialect]
    exact ⟨_, rfl⟩
  refine ⟨names, hnames, ?_, ?_⟩
  · rw [← exists_describeAll_iff hdialect]
    constructor
    · rintro ⟨snapshot, h⟩
      exact exists_describeAll_of_snapshot hnames h
    · rintro ⟨tables, h⟩
      rw [snapshot_of_describeAll hdialect hnames h]
      exact ⟨_, rfl⟩
  · intro snapshot hsnapshot
    obtain ⟨tables, htables⟩ := exists_describeAll_of_snapshot hnames hsnapshot
    obtain ⟨hreadable, hdescribe⟩ := map_describe_of_describeAll hdialect htables
    rw [snapshot_of_describeAll hdialect hnames htables] at hsnapshot ⊢
    obtain rfl := Except.ok.inj hsnapshot
    rw [← hreadable, List.map_map, List.map_map]
    refine ⟨List.map_congr_left fun table htable => ?_, rfl⟩
    rw [Function.comp_apply, Function.comp_apply, hdescribe table htable]
    rfl

/-- One table is passed over, one cannot be read, and one cannot be counted. -/
def shop : Inspection where
  catalog := {
    dialectName := some "sqlite"
    tables := ["audit", "orders", "users", "visits"]
    columns := [("orders", [.ofFlags "id" (some "INTEGER") (.int 1) .null 1,
      .ofFlags "user_id" (some "INTEGER") (.int 0) .null 0]),
      ("users", [.ofFlags "id" (some "INTEGER") (.int 1) .null 1])]
    keys := [("orders", [{ column := "user_id", table := some "users", target := some "id" }])]
    counts := [("\"orders\"", some 3)]
    failing := ["audit"] }
  url := ⟨"sqlite", none, none, none, none, none⟩
  excluded := ["visits"]

theorem snapshot_isolated_shop :
    shop.dialect = .ok .sqlite ∧
      (∃ snapshot, shop.snapshot.result = .ok snapshot ∧
        (snapshot.tables.map .ok).map (Except.map fun table => (table.name, table.rowCount))
          = ([.ok ("orders", 3), .ok ("users", 0)] : List (Except Failure (String × Int)))) ∧
      shop.snapshot.rollbacks = 2 := by
  have hdialect : shop.dialect = .ok .sqlite := rfl
  have hlisted : shop.tableNames = .ok ["audit", "orders", "users"] := rfl
  obtain ⟨names, hnames, htaken, hparts⟩ := snapshot_isolated hdialect
  obtain rfl := Except.ok.inj (hlisted.symm.trans hnames)
  obtain ⟨snapshot, hsnapshot⟩ := htaken.mpr (by decide)
  obtain ⟨htables, hrollbacks⟩ := hparts snapshot hsnapshot
  refine ⟨hdialect, ⟨snapshot, hsnapshot, ?_⟩, hrollbacks⟩
  rw [htables]
  decide +kernel

/-- The shop with orders that refer to a table of the empty name. -/
def namelessShop : Inspection :=
  { shop with catalog := { shop.catalog with
      keys := [("orders", [{ column := "user_id", table := some "", target := some "id" }])] } }

/-- A row without a table to refer to is no failure of its table alone. -/
theorem snapshot_fails_namelessShop :
    namelessShop.dialect = .ok .sqlite ∧
      namelessShop.tableNames = .ok ["audit", "orders", "users"] ∧
      namelessShop.snapshot.result = .error (.invalid "TableInfo"
        [⟨[.field "columns", .index 1],
          .violated ("Column 'user_id': is_foreign_key requires foreign_table "
            ++ "(and foreign_table requires is_foreign_key)")⟩]) := by
  refine ⟨rfl, rfl, ?_⟩
  decide +kernel

end Inspection

end RelSchema
