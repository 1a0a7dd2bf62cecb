import RelSchema.Live
import RelSchema.Proofs.Catalog.Inspection

/-!
# Databases that cannot be read

Reading the schema of a database fails for one of two reasons. Either the database is unavailable:
it cannot be connected to, lists no tables or is of an unknown family. Or it lists its tables, and
the rows of a readable one make a column refer to a table without a name, which is a fault of the
data and not of the database.
-/

namespace RelSchema

namespace Inspection

variable {inspection : Inspection} {dialect : Dialect} {names : List String} {failure : Failure}

/-- Whether the rows of the readable tables name the tables that they make columns refer to. -/
def NamesTargets (inspection : Inspection) (dialect : Dialect) (names : List String) : Prop :=
  ∀ name ∈ names.filter inspection.isReadable, KeyRow.NamesTargets dialect
    (inspection.catalog.columnRows name) (inspection.catalog.keyRows name)

theorem isUnavailable_of_dialect (h : inspection.dialect = .error failure) :
    failure.isUnavailable = true := by
  unfold Inspection.dialect Dialect.ofName at h
  split at h
  · cases h
  · cases h
    rfl

theorem exists_tableNames (h : inspection.dialect = .ok dialect) :
    ∃ names, inspection.tableNames = .ok names := by
  unfold tableNames
  rw [h]
  exact ⟨_, rfl⟩

theorem tableNames_sublist (h : inspection.tableNames = .ok names) :
    names.Sublist inspection.catalog.tables := by
  unfold tableNames at h
  obtain ⟨dialect, -, hnames⟩ := bind_eq_ok_iff.mp h
  obtain rfl := Except.ok.inj hnames
  split_ifs
  · exact List.nil_sublist _
  · exact List.filter_sublist

theorem not_isUnavailable_of_describeAll (hdialect : inspection.dialect = .ok dialect)
    (h : (inspection.describeAll names).result = .error failure) :
    failure.isUnavailable = false := by
  rw [result_describeAll hdialect] at h
  obtain ⟨name, hname, hfailure⟩ := exists_of_mapM_eq_error h
  rw [describe_of_isReadable hdialect (List.mem_filter.mp hname).2, Table.ofRows,
    Table.checked] at hfailure
  split_ifs at hfailure
  obtain rfl := Except.error.inj hfailure
  rfl

theorem faults_of_describe {name : String} {table : Table}
    (hdialect : inspection.dialect = .ok dialect) (h : inspection.describe name = .ok table) :
    table.faults = [] := by
  by_cases hname : inspection.isReadable name = true
  · rw [describe_of_isReadable hdialect hname] at h
    exact Table.faults_of_checked h
  · rw [describe_of_not_isReadable hdialect hname] at h
    cases h

theorem snapshot_of_describeAll_error (hnames : inspection.tableNames = .ok names)
    (h : (inspection.describeAll names).result = .error failure) :
    inspection.snapshot.result = .error failure := by
  unfold Inspection.snapshot Inspection.tables
  rw [hnames, Outcome.of_ok_bind, Outcome.result_bind, h]
  rfl

/-- Without a dialect nothing is read, whether tables could be listed or not. -/
theorem snapshotUnless_of_dialect_error (h : inspection.dialect = .error failure)
    (unlisted : Option String) :
    (inspection.snapshotUnless unlisted).result = .error failure := by
  cases unlisted with
  | none =>
      have hnames : inspection.tableNames = .error failure := by
        unfold tableNames
        rw [h]
        rfl
      unfold snapshotUnless Inspection.snapshot Inspection.tables
      rw [hnames]
      rfl
  | some report =>
      unfold snapshotUnless
      rw [h]
      rfl

theorem snapshotUnless_of_report (h : inspection.dialect = .ok dialect) (report : String) :
    (inspection.snapshotUnless (some report)).result = .error (.database report) := by
  unfold snapshotUnless
  rw [h]
  rfl

/-- A snapshot of a database whose tables are listed holds the readable ones, and only tables that
keep their rules. -/
theorem snapshot_cases (hdialect : inspection.dialect = .ok dialect)
    (hnames : inspection.tableNames = .ok names) :
    (inspection.NamesTargets dialect names ∧ ∃ snapshot, inspection.snapshot.result = .ok snapshot ∧
      snapshot.tables.map (·.name) = names.filter inspection.isReadable ∧
      ∀ table ∈ snapshot.tables, table.faults = []) ∨
    (¬ inspection.NamesTargets dialect names ∧ ∃ failure,
      inspection.snapshot.result = .error failure ∧ failure.isUnavailable = false) := by
  have hiff := exists_describeAll_iff hdialect names
  cases htables : (inspection.describeAll names).result with
  | error failure =>
      refine Or.inr ⟨fun hrows => ?_, failure, snapshot_of_describeAll_error hnames htables,
        not_isUnavailable_of_describeAll hdialect htables⟩
      obtain ⟨tables, h⟩ := hiff.mpr hrows
      rw [htables] at h
      cases h
  | ok tables =>
      have hsnapshot := snapshot_of_describeAll hdialect hnames htables
      obtain ⟨hreadable, hdescribe⟩ := map_describe_of_describeAll hdialect htables
      refine Or.inl ⟨hiff.mp ⟨tables, htables⟩, _, congrArg Outcome.result hsnapshot, ?_, ?_⟩
      · rw [List.map_map]
        exact hreadable
      · -- a row count is no part of the rules
        refine List.forall_mem_map.mpr fun table htable => ?_
        have hfaults : table.faults = [] := faults_of_describe hdialect (hdescribe table htable)
        exact hfaults

end Inspection

namespace Config

variable {config : Config} {surroundings : Surroundings} {profile : Profile} {url : Url}

/-- The inspection over a connection to the database at the address. -/
def inspection (config : Config) (catalog : Catalog) (url : Url) : Inspection where
  catalog
  url
  excluded := config.settings.excludedTables.getD Inspection.usualExclusions

/-- Whether the database at the address is connected to, of this dialect, and lists these tables. -/
structure Lists (config : Config) (surroundings : Surroundings) (url : Url) (dialect : Dialect)
    (names : List String) : Prop where
  connects : surroundings.catalog.refusal = none
  lists : surroundings.unlisted = none
  dialect_eq : (config.inspection surroundings.catalog url).dialect = .ok dialect
  tableNames_eq : (config.inspection surroundings.catalog url).tableNames = .ok names

theorem address_ne_of_normal (hurl : Url.normal profile.address = .ok url) :
    profile.address ≠ "" := by
  intro hempty
  rw [hempty] at hurl
  cases hurl

theorem inspectUnless_of_refusal {unlisted : Option String} {catalog : Catalog} {report : String}
    (hurl : Url.normal profile.address = .ok url) (h : catalog.refusal = some report) :
    config.inspectUnless unlisted catalog profile = .error (.database report) := by
  unfold inspectUnless
  rw [if_neg (by simpa using address_ne_of_normal hurl), hurl, h]
  rfl

theorem inspectUnless_of_connected {unlisted : Option String} {catalog : Catalog}
    (hurl : Url.normal profile.address = .ok url) (h : catalog.refusal = none) :
    config.inspectUnless unlisted catalog profile
      = ((config.inspection catalog url).snapshotUnless unlisted).result := by
  unfold inspectUnless
  rw [if_neg (by simpa using address_ne_of_normal hurl), hurl, h]
  rfl

/-- A database that lists no tables is unavailable. -/
theorem inspectUnless_of_not_lists (hurl : Url.normal profile.address = .ok url)
    (h : ∀ dialect names, ¬ config.Lists surroundings url dialect names) :
    ∃ failure, config.inspectUnless surroundings.unlisted surroundings.catalog profile
      = .error failure ∧ failure.isUnavailable = true := by
  cases hrefusal : surroundings.catalog.refusal with
  | some report => exact ⟨_, inspectUnless_of_refusal hurl hrefusal, rfl⟩
  | none =>
      rw [inspectUnless_of_connected hurl hrefusal]
      cases hdialect : (config.inspection surroundings.catalog url).dialect with
      | error failure =>
          exact ⟨failure, Inspection.snapshotUnless_of_dialect_error hdialect _,
            Inspection.isUnavailable_of_dialect hdialect⟩
      | ok dialect =>
          cases hunlisted : surroundings.unlisted with
          | none =>
              obtain ⟨names, hnames⟩ := Inspection.exists_tableNames hdialect
              exact absurd ⟨hrefusal, hunlisted, hdialect, hnames⟩ (h dialect names)
          | some report => exact ⟨_, Inspection.snapshotUnless_of_report hdialect report, rfl⟩

theorem inspectUnless_of_lists (hurl : Url.normal profile.address = .ok url) {dialect : Dialect}
    {names : List String} (h : config.Lists surroundings url dialect names) :
    config.inspectUnless surroundings.unlisted surroundings.catalog profile
      = (config.inspection surroundings.catalog url).snapshot.result := by
  rw [inspectUnless_of_connected hurl h.connects, h.lists]
  rfl

end Config

end RelSchema
