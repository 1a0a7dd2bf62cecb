import Mathlib.Data.String.Basic
import RelSchema.Proofs.Schema.Merge
import RelSchema.Schema.Comparison

/-!
# Comparisons

A comparison looks up tables by name up to case. Where the names of each schema are distinct, this
tells apart all tables, and the result of the comparison lists exactly what keeps the expected
schema from being included in the actual one: the tables without a counterpart, and for each shared
table the columns that its counterpart lacks.

Of several tables of one name, a comparison takes the first expected and the last actual one. So it
is reflexive where the last table of each name includes the first, and it is transitive through a
schema where the first includes the last.
-/

namespace RelSchema

open Ddl (DistinctFolds)

theorem pairwise_lt_mergeSort {names : List String} (h : names.Nodup) :
    names.mergeSort.Pairwise (· < ·) := by
  have hsorted : names.mergeSort.Pairwise (· ≤ ·) := by
    have hle := @List.pairwise_mergeSort String (fun a b => a ≤ b)
      (fun a b c hab hbc => by
        simp only [decide_eq_true_eq] at hab hbc ⊢
        exact hab.trans hbc)
      (fun a b => by simpa using le_total a b) names
    simpa only [decide_eq_true_eq] using hle
  have hdistinct : names.mergeSort.Pairwise (· ≠ ·) := (List.mergeSort_perm names _).nodup_iff.mpr h
  exact hsorted.imp₂ (fun _ _ hle hne => lt_of_le_of_ne hle hne) hdistinct

namespace Table

theorem has_byName_iff {tables : List Table} {key : String} :
    (byName tables).has key = true ↔ ∃ table ∈ tables, table.foldedName = key := by
  rw [Keyed.has, get?_byName, List.find?_isSome]
  simp only [List.mem_reverse, beq_iff_eq]

/-- Whether the table has the name and all columns of the expected one, up to case. -/
def Includes (table expected : Table) : Prop :=
  table.foldedName = expected.foldedName ∧
    ∀ name ∈ expected.columnNames, ∃ other ∈ table.columnNames, Text.fold other = Text.fold name

theorem Includes.refl (table : Table) : table.Includes table :=
  ⟨rfl, fun name hname => ⟨name, hname, rfl⟩⟩

theorem Includes.trans {table other expected : Table} (h : table.Includes other)
    (h' : other.Includes expected) : table.Includes expected := by
  refine ⟨h.1.trans h'.1, fun name hname => ?_⟩
  obtain ⟨middle, hmiddle, hfold⟩ := h'.2 name hname
  obtain ⟨found, hfound, hfold'⟩ := h.2 middle hmiddle
  exact ⟨found, hfound, hfold'.trans hfold⟩

/-- The names of the columns, in their order, that the other table lacks up to case. -/
def absentColumns (table other : Table) : List String :=
  table.columnNames.filter (Text.fold · ∉ other.columnNames.map Text.fold)

def missing (table : Table) (column : String) : MissingColumn where
  table := table.name
  column := column
  message := "Column '" ++ column ++ "' missing from table '" ++ table.name ++ "'"

theorem absentColumns_eq_nil_iff {table other : Table}
    (hname : other.foldedName = table.foldedName) :
    table.absentColumns other = [] ↔ other.Includes table := by
  rw [absentColumns, List.filter_eq_nil_iff, Includes]
  simp [hname]

end Table

namespace Snapshot

open Table (byName)

variable {actual expected : Snapshot}

/-- Whether the names are those of the tables without a counterpart, each once and in order. -/
def ListsUnmatched (tables others : List Table) (names : List String) : Prop :=
  names.Pairwise (· < ·) ∧ ∀ name, name ∈ names ↔
    ∃ table ∈ tables, table.name = name ∧ ∀ other ∈ others, other.foldedName ≠ table.foldedName

theorem listsUnmatched_unmatched {tables : List Table} (h : DistinctFolds (tables.map (·.name)))
    (others : List Table) :
    ListsUnmatched tables others (unmatched (byName tables) (byName others)) := by
  have hnames : unmatched (byName tables) (byName others)
      = ((tables.filter fun table =>
        !(byName others).has table.foldedName).map (·.name)).mergeSort := by
    rw [unmatched, Table.byName_eq h, List.filter_map, List.map_map]
    rfl
  rw [hnames]
  refine ⟨pairwise_lt_mergeSort (h.nodup.sublist (List.filter_sublist.map _)), fun name => ?_⟩
  simp only [List.mem_mergeSort, List.mem_map, List.mem_filter, Bool.not_eq_true',
    Bool.eq_false_iff, ne_eq, Table.has_byName_iff, not_exists, not_and]
  constructor
  · rintro ⟨table, ⟨hmem, hnone⟩, rfl⟩
    exact ⟨table, hmem, rfl, hnone⟩
  · rintro ⟨table, hmem, rfl, hnone⟩
    exact ⟨table, ⟨hmem, hnone⟩, rfl⟩

theorem ListsUnmatched.eq_nil_iff {tables others : List Table} {names : List String}
    (h : ListsUnmatched tables others names) :
    names = [] ↔ ∀ table ∈ tables, ∃ other ∈ others, other.foldedName = table.foldedName := by
  rw [List.eq_nil_iff_forall_not_mem]
  simp only [h.2, not_exists, not_and, not_forall, ne_eq, not_not]
  constructor
  · intro hall table htable
    obtain ⟨other, hother, hname⟩ := hall table.name table htable rfl
    exact ⟨other, hother, hname⟩
  · rintro hall _ table htable rfl
    obtain ⟨other, hother, hname⟩ := hall table htable
    exact ⟨other, hother, hname⟩

/-- Whether the pairs are the tables with their counterparts, in the order of their names up to
case. -/
structure ListsShared (tables others : List Table) (pairs : List (Table × Table)) : Prop where
  mem_iff : ∀ table other, (table, other) ∈ pairs ↔
    table ∈ tables ∧ other ∈ others ∧ other.foldedName = table.foldedName
  ordered : pairs.Pairwise fun pair next => pair.1.foldedName < next.1.foldedName

theorem matched?_eq_some_iff {tables others : Keyed Table} {key : String} {pair : Table × Table} :
    matched? others tables key = some pair ↔
      tables.get? key = some pair.1 ∧ others.get? key = some pair.2 := by
  obtain ⟨table, other⟩ := pair
  unfold matched?
  cases tables.get? key <;> cases others.get? key <;> simp

theorem listsShared_matched {tables others : List Table}
    (htables : DistinctFolds (tables.map (·.name)))
    (hothers : DistinctFolds (others.map (·.name))) :
    ListsShared tables others
      ((byName tables).keys.mergeSort.filterMap (matched? (byName others) (byName tables))) := by
  have hmatched : ∀ {key table other}, matched? (byName others) (byName tables) key
      = some (table, other) ↔ (table ∈ tables ∧ table.foldedName = key) ∧
        other ∈ others ∧ other.foldedName = key := by
    intro key table other
    rw [matched?_eq_some_iff, Table.get?_byName_eq_some_iff htables,
      Table.get?_byName_eq_some_iff hothers]
  constructor
  · intro table other
    simp only [List.mem_filterMap, List.mem_mergeSort, hmatched]
    constructor
    · rintro ⟨key, -, ⟨htable, rfl⟩, hother, hname⟩
      exact ⟨htable, hother, hname⟩
    · rintro ⟨htable, hother, hname⟩
      refine ⟨table.foldedName, ?_, ⟨htable, rfl⟩, hother, hname⟩
      exact List.mem_map_of_mem
        (Keyed.mem_of_get? ((Table.get?_byName_eq_some_iff htables).mpr ⟨htable, rfl⟩))
  · refine List.pairwise_filterMap.mpr
      ((pairwise_lt_mergeSort (Keyed.nodup_keys_ofList _)).imp ?_)
    intro key next hlt pair hpair following hfollowing
    rw [(hmatched.mp hpair).1.2, (hmatched.mp hfollowing).1.2]
    exact hlt

theorem missingColumns_of_table? {name : String} {first : Table}
    (hfirst : expected.table? name = some first) (other : Table) :
    expected.missingColumns name other
      = (first.absentColumns other).map (Table.missing { first with name := name }) := by
  have habsent : ∀ column, (!other.columnNames.any (Text.sameFold column))
      = decide (Text.fold column ∉ other.columnNames.map Text.fold) := by
    intro column
    rw [decide_not, ← List.contains_eq_mem, List.contains_eq_any_beq, List.any_map]
    rfl
  unfold missingColumns
  rw [hfirst]
  simp only [Option.map_some, Option.getD_some, habsent]
  rfl

theorem missingColumns_eq (hexpected : DistinctFolds expected.tableNames) {table : Table}
    (htable : table ∈ expected.tables) (other : Table) :
    expected.missingColumns table.name other
      = (table.absentColumns other).map table.missing := by
  have hfound : expected.table? table.name = some table := by
    have hfolds : (expected.tables.map Table.foldedName).Nodup :=
      Table.map_foldedName expected.tables ▸ hexpected
    exact find?_eq_some_of_nodup hfolds htable
  exact missingColumns_of_table? hfound other

theorem missingColumns_compare (hactual : DistinctFolds actual.tableNames)
    (hexpected : DistinctFolds expected.tableNames) :
    ∃ shared, ListsShared expected.tables actual.tables shared ∧
      (actual.compare expected).missingColumns = shared.flatMap fun (table, other) =>
        (table.absentColumns other).map table.missing := by
  have hshared := listsShared_matched hexpected hactual
  refine ⟨_, hshared, List.flatMap_congr fun pair hpair => ?_⟩
  exact missingColumns_eq hexpected ((hshared.mem_iff pair.1 pair.2).mp hpair).1 pair.2

theorem ListsShared.flatMap_eq_nil_iff {tables others : List Table} {pairs : List (Table × Table)}
    (h : ListsShared tables others pairs) :
    (pairs.flatMap fun (table, other) => (table.absentColumns other).map table.missing) = [] ↔
      ∀ table ∈ tables, ∀ other ∈ others, other.foldedName = table.foldedName →
        other.Includes table := by
  rw [List.flatMap_eq_nil_iff, Prod.forall]
  constructor
  · intro hnone table htable other hother hname
    have hmissing := hnone table other ((h.mem_iff table other).mpr ⟨htable, hother, hname⟩)
    exact (Table.absentColumns_eq_nil_iff hname).mp (List.map_eq_nil_iff.mp hmissing)
  · intro hall table other hpair
    obtain ⟨htable, hother, hname⟩ := (h.mem_iff table other).mp hpair
    exact List.map_eq_nil_iff.mpr
      ((Table.absentColumns_eq_nil_iff hname).mpr (hall table htable other hother hname))

theorem valid_compare_iff :
    (actual.compare expected).valid = true ↔ (actual.compare expected).missingTables = [] ∧
      (actual.compare expected).missingColumns = [] := by
  unfold compare
  rw [Bool.and_eq_true, List.isEmpty_iff, List.isEmpty_iff]

theorem errorCount_eq_zero_iff {comparison : Comparison} : comparison.errorCount = 0 ↔
    comparison.missingTables = [] ∧ comparison.missingColumns = [] := by
  rw [Comparison.errorCount, Nat.add_eq_zero_iff, List.length_eq_zero_iff, List.length_eq_zero_iff]

/-- A comparison is valid exactly if each expected table is included in an actual one, which is when
it counts no error. It lists the expected and the actual tables without a counterpart in order, and
the columns that expected tables have and their counterparts lack, by name of the table up to case
and then as they are declared. -/
theorem compare_of_distinct (hactual : DistinctFolds actual.tableNames)
    (hexpected : DistinctFolds expected.tableNames) :
    ((actual.compare expected).valid = true ↔
      ∀ table ∈ expected.tables, ∃ other ∈ actual.tables, other.Includes table) ∧
    ListsUnmatched expected.tables actual.tables (actual.compare expected).missingTables ∧
    ListsUnmatched actual.tables expected.tables (actual.compare expected).extraTables ∧
    (∃ shared, ListsShared expected.tables actual.tables shared ∧
      (actual.compare expected).missingColumns = shared.flatMap fun (table, other) =>
        (table.absentColumns other).map table.missing) ∧
    ((actual.compare expected).valid = true ↔ (actual.compare expected).errorCount = 0) := by
  have hmissing : ListsUnmatched expected.tables actual.tables
      (actual.compare expected).missingTables := listsUnmatched_unmatched hexpected actual.tables
  obtain ⟨shared, hshared, hcolumns⟩ := missingColumns_compare hactual hexpected
  refine ⟨?_, hmissing, listsUnmatched_unmatched hactual expected.tables,
    ⟨shared, hshared, hcolumns⟩, valid_compare_iff.trans errorCount_eq_zero_iff.symm⟩
  rw [valid_compare_iff, hmissing.eq_nil_iff, hcolumns, hshared.flatMap_eq_nil_iff]
  constructor
  · rintro ⟨htables, hincluded⟩ table htable
    obtain ⟨other, hother, hname⟩ := htables table htable
    exact ⟨other, hother, hincluded table htable other hother hname⟩
  · intro hall
    refine ⟨fun table htable => ?_, fun table htable other hother hname => ?_⟩
    · obtain ⟨other, hother, hname, -⟩ := hall table htable
      exact ⟨other, hother, hname⟩
    · -- the counterpart that includes the table is the only one of its name
      obtain ⟨included, hincluded, hincludes⟩ := hall table htable
      obtain rfl : included = other :=
        List.inj_on_of_nodup_map (Table.map_foldedName actual.tables ▸ hactual) hincluded hother
          (hincludes.1.trans hname.symm)
      exact hincludes

def shopExpected : Snapshot where
  tables := [
    { name := "users", columns := [{ name := "id" }] },
    { name := "Orders", columns := [{ name := "id" }, { name := "Total" }, { name := "note" }] },
    { name := "Zones", columns := [{ name := "id" }] }]

def shopActual : Snapshot where
  tables := [
    { name := "orders", columns := [{ name := "ID" }, { name := "user_id" }] },
    { name := "logs" },
    { name := "USERS", columns := [{ name := "Id" }] }]

theorem compare_of_distinct_shop :
    (DistinctFolds shopActual.tableNames ∧ DistinctFolds shopExpected.tableNames) ∧
      "Zones" ∈ (shopActual.compare shopExpected).missingTables ∧
      "logs" ∈ (shopActual.compare shopExpected).extraTables ∧
      (shopActual.compare shopExpected).valid = false := by
  have hactual : DistinctFolds shopActual.tableNames := by
    unfold DistinctFolds
    decide
  have hexpected : DistinctFolds shopExpected.tableNames := by
    unfold DistinctFolds
    decide
  obtain ⟨hvalid, hmissing, hextra, -, -⟩ := compare_of_distinct hactual hexpected
  refine ⟨⟨hactual, hexpected⟩, (hmissing.2 "Zones").mpr (by decide),
    (hextra.2 "logs").mpr (by decide), ?_⟩
  rw [Bool.eq_false_iff, ne_eq, hvalid]
  unfold Table.Includes
  decide

/-! ### First and last tables

Expected tables are found from the front and actual ones from the end. Both are look-ups by name, in
a schema and in the schema with the opposite order, so what holds of the first table of a name
carries over to the last one.
-/

variable {schema : Snapshot} {name : String} {table first last : Table}

/-- The schema with its tables in the opposite order. -/
def reversed (schema : Snapshot) : Snapshot :=
  { schema with tables := schema.tables.reverse }

def lastTable? (schema : Snapshot) (name : String) : Option Table :=
  schema.reversed.table? name

theorem lastTable?_reversed (schema : Snapshot) (name : String) :
    schema.reversed.lastTable? name = schema.table? name := by
  unfold lastTable? reversed
  rw [List.reverse_reverse]

theorem get?_byName_fold (schema : Snapshot) (name : String) :
    (byName schema.tables).get? (Text.fold name) = schema.lastTable? name :=
  Table.get?_byName schema.tables (Text.fold name)

theorem table?_congr {other : String} (h : Text.fold name = Text.fold other) :
    schema.table? name = schema.table? other := by
  unfold table? Text.sameFold
  rw [h]

theorem foldedName_of_table? (h : schema.table? name = some table) :
    table.foldedName = Text.fold name :=
  beq_iff_eq.mp (List.find?_some (p := fun table : Table => Text.sameFold table.name name) h)

theorem isSome_table?_of_mem (h : table ∈ schema.tables) :
    (schema.table? table.name).isSome = true :=
  List.find?_isSome.mpr ⟨table, h, beq_self_eq_true _⟩

theorem isSome_lastTable? (schema : Snapshot) (name : String) :
    (schema.lastTable? name).isSome = (schema.table? name).isSome := by
  unfold lastTable? reversed table?
  rw [Bool.eq_iff_iff]
  simp only [List.find?_isSome, List.mem_reverse]

theorem exists_lastTable? (h : schema.table? name = some first) :
    ∃ last, schema.lastTable? name = some last := by
  rw [← Option.isSome_iff_exists, isSome_lastTable?]
  exact Option.isSome_of_eq_some h

def AreEnds (schema : Snapshot) (first last : Table) : Prop :=
  ∃ name, schema.table? name = some first ∧ schema.lastTable? name = some last

theorem missingTables_eq_nil_iff :
    (actual.compare expected).missingTables = [] ↔
      ∀ name, (expected.table? name).isSome = true → (actual.lastTable? name).isSome = true := by
  have hunmatched : (actual.compare expected).missingTables
      = unmatched (byName expected.tables) (byName actual.tables) := rfl
  rw [hunmatched, unmatched, List.eq_nil_iff_forall_not_mem]
  simp only [List.mem_mergeSort, List.mem_map, List.mem_filter, Bool.not_eq_true', not_exists,
    not_and]
  constructor
  · intro hnone name hname
    obtain ⟨first, hfirst⟩ := Option.isSome_iff_exists.mp hname
    obtain ⟨last, hlast⟩ := exists_lastTable? hfirst
    rw [← get?_byName_fold] at hlast ⊢
    by_contra hmissing
    exact hnone last.name (Text.fold name, last) ⟨Keyed.mem_of_get? hlast,
      Bool.eq_false_iff.mpr hmissing⟩ rfl
  · rintro hall _ ⟨key, table⟩ ⟨hentry, hmissing⟩ -
    obtain ⟨htable, hkey⟩ := Table.of_mem_byName hentry
    obtain rfl : key = Text.fold table.name := hkey
    have hfound := hall table.name (isSome_table?_of_mem htable)
    rw [← get?_byName_fold] at hfound
    exact absurd hfound (Bool.eq_false_iff.mp hmissing)

theorem missingColumns_eq_nil_iff {other : Table} (hname : other.foldedName = Text.fold name)
    (hfirst : expected.table? name = some first) :
    expected.missingColumns name other = [] ↔ other.Includes first := by
  have hsame : other.foldedName = first.foldedName := hname.trans (foldedName_of_table? hfirst).symm
  rw [missingColumns_of_table? hfirst, List.map_eq_nil_iff, Table.absentColumns_eq_nil_iff hsame]

/-- The columns of the first expected table of a name are looked for in the last actual one. -/
theorem missingColumns_compare_eq_nil_iff :
    (actual.compare expected).missingColumns = [] ↔
      ∀ name first last, expected.table? name = some first → actual.lastTable? name = some last →
        last.Includes first := by
  have hcolumns : (actual.compare expected).missingColumns
      = ((byName expected.tables).keys.mergeSort.filterMap
        (matched? (byName actual.tables) (byName expected.tables))).flatMap fun (table, other) =>
          expected.missingColumns table.name other := rfl
  rw [hcolumns, List.flatMap_eq_nil_iff, Prod.forall]
  simp only [List.mem_filterMap, List.mem_mergeSort, matched?_eq_some_iff]
  constructor
  · intro hnone name first last hfirst hlast
    -- the comparison asks for the first table by the spelling of the last one
    obtain ⟨shared, hshared⟩ := exists_lastTable? hfirst
    have hspelled : expected.table? shared.name = some first :=
      (table?_congr (foldedName_of_table? hshared)).trans hfirst
    have hfolds : last.foldedName = Text.fold shared.name :=
      (foldedName_of_table? hlast).trans (foldedName_of_table? hshared).symm
    rw [← get?_byName_fold] at hshared hlast
    refine (missingColumns_eq_nil_iff hfolds hspelled).mp (hnone shared last ?_)
    exact ⟨Text.fold name, Keyed.isSome_get?_iff.mp (Option.isSome_of_eq_some hshared),
      hshared, hlast⟩
  · rintro hall table other ⟨key, -, htable, hother⟩
    obtain ⟨hmem, hkey⟩ := Table.of_mem_byName (Keyed.mem_of_get? htable)
    obtain rfl : key = Text.fold table.name := hkey
    obtain ⟨first, hfirst⟩ := Option.isSome_iff_exists.mp (isSome_table?_of_mem hmem)
    have hlast : actual.lastTable? table.name = some other :=
      (get?_byName_fold actual table.name).symm.trans hother
    exact (missingColumns_eq_nil_iff (foldedName_of_table? hlast) hfirst).mpr
      (hall table.name first other hfirst hlast)

/-- A comparison is valid exactly if for each expected name the last actual table includes the first
expected one. -/
theorem valid_compare_iff_ends :
    (actual.compare expected).valid = true ↔ ∀ name first, expected.table? name = some first →
      ∃ last, actual.lastTable? name = some last ∧ last.Includes first := by
  rw [valid_compare_iff, missingTables_eq_nil_iff, missingColumns_compare_eq_nil_iff]
  constructor
  · rintro ⟨htables, hcolumns⟩ name first hfirst
    obtain ⟨last, hlast⟩ := Option.isSome_iff_exists.mp
      (htables name (Option.isSome_of_eq_some hfirst))
    exact ⟨last, hlast, hcolumns name first last hfirst hlast⟩
  · intro hall
    refine ⟨fun name hname => ?_, fun name first last hfirst hlast => ?_⟩
    · obtain ⟨first, hfirst⟩ := Option.isSome_iff_exists.mp hname
      obtain ⟨last, hlast, -⟩ := hall name first hfirst
      exact Option.isSome_of_eq_some hlast
    · obtain ⟨found, hfound, hincludes⟩ := hall name first hfirst
      obtain rfl := Option.some.inj (hfound.symm.trans hlast)
      exact hincludes

theorem valid_compare_self_iff :
    (schema.compare schema).valid = true ↔
      ∀ first last, schema.AreEnds first last → last.Includes first := by
  rw [valid_compare_iff_ends]
  constructor
  · rintro hall first last ⟨name, hfirst, hlast⟩
    obtain ⟨found, hfound, hincludes⟩ := hall name first hfirst
    obtain rfl := Option.some.inj (hfound.symm.trans hlast)
    exact hincludes
  · intro hends name first hfirst
    obtain ⟨last, hlast⟩ := exists_lastTable? hfirst
    exact ⟨last, hlast, hends first last ⟨name, hfirst, hlast⟩⟩

theorem valid_compare_trans (hends : ∀ first last, schema.AreEnds first last → first.Includes last)
    (hactual : (actual.compare schema).valid = true)
    (hexpected : (schema.compare expected).valid = true) :
    (actual.compare expected).valid = true := by
  rw [valid_compare_iff_ends] at hactual hexpected ⊢
  intro name wanted hwanted
  obtain ⟨last, hlast, hlastIncludes⟩ := hexpected name wanted hwanted
  obtain ⟨first, hfirst⟩ : ∃ first, schema.table? name = some first := by
    rw [← Option.isSome_iff_exists, ← isSome_lastTable?]
    exact Option.isSome_of_eq_some hlast
  obtain ⟨found, hfound, hfoundIncludes⟩ := hactual name first hfirst
  exact ⟨found, hfound,
    (hfoundIncludes.trans (hends first last ⟨name, hfirst, hlast⟩)).trans hlastIncludes⟩

/-- The schema in the opposite order and its last table alone show whether validity passes
through the schema. -/
theorem includes_of_trans (htrans : ∀ actual expected : Snapshot,
      (actual.compare schema).valid = true → (schema.compare expected).valid = true →
        (actual.compare expected).valid = true)
    (h : schema.AreEnds first last) : first.Includes last := by
  obtain ⟨name, hfirst, hlast⟩ := h
  have hreversed : (schema.reversed.compare schema).valid = true := by
    rw [valid_compare_iff_ends]
    intro other table htable
    exact ⟨table, (lastTable?_reversed schema other).trans htable, Table.Includes.refl table⟩
  have halone : (schema.compare { tables := [last] }).valid = true := by
    rw [valid_compare_iff_ends]
    intro other table htable
    obtain rfl := List.mem_singleton.mp (List.mem_of_find?_eq_some htable)
    have hsame : Text.fold other = Text.fold name :=
      (foldedName_of_table? htable).symm.trans (foldedName_of_table? hlast)
    exact ⟨table, (table?_congr hsame).trans hlast, Table.Includes.refl table⟩
  have hwanted : table? { tables := [last] } name = some last :=
    List.find?_cons_of_pos (beq_iff_eq.mpr (foldedName_of_table? hlast))
  obtain ⟨found, hfound, hincludes⟩ :=
    valid_compare_iff_ends.mp (htrans _ _ hreversed halone) name last hwanted
  rw [lastTable?_reversed, hfirst] at hfound
  obtain rfl := Option.some.inj hfound
  exact hincludes

/-- A schema is valid against itself exactly if the last table of each name includes the first, and
validity passes through it exactly if the first includes the last. -/
theorem compare_preorder_iff (schema : Snapshot) :
    ((schema.compare schema).valid = true ↔
      ∀ first last, schema.AreEnds first last → last.Includes first) ∧
    ((∀ actual expected : Snapshot, (actual.compare schema).valid = true →
        (schema.compare expected).valid = true → (actual.compare expected).valid = true) ↔
      ∀ first last, schema.AreEnds first last → first.Includes last) := by
  refine ⟨valid_compare_self_iff, ?_⟩
  constructor
  · exact fun htrans first last hends => includes_of_trans htrans hends
  · exact fun hends actual expected hactual hexpected => valid_compare_trans hends hactual hexpected

/-- Two tables whose names differ in case only. -/
def guests : Snapshot where
  tables := [
    { name := "guests", columns := [{ name := "id" }] },
    { name := "Guests", columns := [{ name := "name" }] }]

/-- The schema is not valid against itself, and its first and its last table alone are not valid
against each other although both are against the schema. -/
theorem compare_guests_invalid :
    (guests.compare guests).valid = false ∧
    ∃ actual expected : Snapshot, (actual.compare guests).valid = true ∧
      (guests.compare expected).valid = true ∧ (actual.compare expected).valid = false := by
  refine ⟨by decide +kernel, { tables := [{ name := "guests", columns := [{ name := "id" }] }] },
    { tables := [{ name := "guests", columns := [{ name := "name" }] }] }, ?_⟩
  decide +kernel

end Snapshot

end RelSchema
