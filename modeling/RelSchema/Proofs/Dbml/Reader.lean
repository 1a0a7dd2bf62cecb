import RelSchema.Dbml.Text
import RelSchema.Proofs.Schema.Consistent

/-!
# Tables read line by line

Columns are read one by one, closed into tables and linked by references that follow their table.
What these three steps keep holds of every table that is read. Each reference names a table, so all
columns are consistent.
-/

namespace RelSchema.Dbml

theorem table_ne_of_target? {path : List Char} {target : Target} (h : target? path = some target) :
    target.table ≠ "" := by
  unfold target? at h
  dsimp only at h
  set parts := (Text.splitAt '.' (Text.dropEndWhile (· == ',') (Text.trim path))).map
    fun part => Naming.unquoteIdentifier (.ofList part)
  split at h
  · next column table before hparts =>
    split_ifs at h with hempty
    cases h
    have htable : table ∈ parts := by
      rw [← List.mem_reverse, hparts]
      simp
    rintro rfl
    exact hempty (List.contains_iff_mem.mpr htable)
  · cases h

theorem table_ne_of_readSetting {text : List Char} {target : Target}
    (h : readSetting text = .reference (some target)) : target.table ≠ "" := by
  unfold readSetting at h
  dsimp only at h
  split at h
  · split at h <;> cases h
  · split at h
    · cases h
    · exact table_ne_of_target? (Setting.reference.inj h)
    · cases h

theorem consistent_columnWith {name type : String} {settings : List Setting}
    (h : ∀ target, .reference (some target) ∈ settings → target.table ≠ "") :
    (columnWith name type settings).Consistent := by
  unfold columnWith
  dsimp only
  split
  · next target hlast =>
    apply Column.consistent_asForeignKey
    apply h target
    obtain ⟨setting, hsetting, hreference⟩ :=
      List.mem_filterMap.mp (List.mem_of_getLast? hlast)
    cases setting <;> cases hreference
    exact hsetting
  · rfl

theorem consistent_of_column? {line : List Char} {column : Column}
    (h : column? line = some column) : column.Consistent := by
  obtain ⟨found, -, rfl⟩ := Option.map_eq_some_iff.mp h
  apply consistent_columnWith
  intro target htarget
  obtain ⟨text, -, htext⟩ := List.mem_map.mp htarget
  exact table_ne_of_readSetting htext

theorem table_ne_of_link? {body : List Char} {link : Link} (h : link? body = some link) :
    link.target.table ≠ "" := by
  unfold link? at h
  obtain ⟨paths, -, h⟩ := Option.bind_eq_some_iff.mp h
  obtain ⟨source, -, h⟩ := Option.bind_eq_some_iff.mp h
  obtain ⟨target, htarget, h⟩ := Option.bind_eq_some_iff.mp h
  cases h
  exact table_ne_of_target? htarget

theorem forall_mem_changeFirst {α : Type} {p : α → Bool} {f : α → α} {q : α → Prop} {as : List α}
    (h : ∀ a ∈ as, q a) (hf : ∀ a, q a → q (f a)) : ∀ a ∈ changeFirst p f as, q a := by
  induction as with
  | nil => exact h
  | cons first rest ih =>
      obtain ⟨hfirst, hrest⟩ := List.forall_mem_cons.mp h
      unfold changeFirst
      split_ifs
      · exact List.forall_mem_cons.mpr ⟨hf first hfirst, hrest⟩
      · exact List.forall_mem_cons.mpr ⟨hfirst, ih hrest⟩

/-- A property of columns and one of tables that reading keeps: columns are read with the first one,
a table closed around them has the second one, and links between tables keep it. -/
structure Kept (p : Column → Prop) (q : Table → Prop) : Prop where
  column : ∀ {line : List Char} {column : Column}, column? line = some column → p column
  close : ∀ (name : String) {columns : List Column}, (∀ column ∈ columns, p column) →
    q (Reader.closeTable name columns)
  link : ∀ {body : List Char} {link : Link}, link? body = some link → ∀ {table : Table}, q table →
    q (linkTable link table)

variable {p : Column → Prop} {q : Table → Prop}

theorem Kept.applyReference (hkept : Kept p q) {tables : List Table} (body : List Char)
    (h : ∀ table ∈ tables, q table) : ∀ table ∈ applyReference tables body, q table := by
  unfold Dbml.applyReference
  cases hlink : link? body with
  | none => exact h
  | some link => exact forall_mem_changeFirst h fun _ htable => hkept.link hlink htable

namespace Reader

/-- The closed tables have the property of tables, and the columns of an open one that of
columns. -/
structure Holds (p : Column → Prop) (q : Table → Prop) (reader : Reader) : Prop where
  tables : ∀ table ∈ reader.tables, q table
  block : ∀ name columns, reader.block = .table name columns → ∀ column ∈ columns, p column

variable {reader : Reader}

theorem Holds.readInTable (hkept : Kept p q) (h : reader.Holds p q) {name : String}
    {columns : List Column} (hblock : reader.block = .table name columns) (line : List Char) :
    (reader.readInTable name columns line).Holds p q := by
  have hcolumns := h.block name columns hblock
  unfold Reader.readInTable
  split_ifs
  · refine ⟨fun table htable => ?_, fun _ _ hopen => nomatch hopen⟩
    rcases List.mem_append.mp htable with hclosed | hnew
    · exact h.tables table hclosed
    · rw [List.mem_singleton.mp hnew]
      exact hkept.close name hcolumns
  · exact ⟨h.tables, h.block⟩
  · exact h
  · cases hcolumn : column? line with
    | none => exact h
    | some column =>
        refine ⟨h.tables, fun _ _ hopen => ?_⟩
        cases hopen
        intro other hother
        rcases List.mem_append.mp hother with hold | hnew
        · exact hcolumns other hold
        · rw [List.mem_singleton.mp hnew]
          exact hkept.column hcolumn

theorem Holds.readAtTop (hkept : Kept p q) (h : reader.Holds p q) (line : List Char) :
    (reader.readAtTop line).Holds p q := by
  unfold Reader.readAtTop
  cases header? line with
  | some name =>
      refine ⟨h.tables, fun _ _ hopen => ?_⟩
      cases hopen
      exact List.forall_mem_nil _
  | none =>
      by_cases hreferences : opensReferences line = true
      · rw [if_pos hreferences]
        exact ⟨h.tables, fun _ _ hopen => nomatch hopen⟩
      · rw [if_neg hreferences]
        cases reference? line with
        | some body => exact ⟨hkept.applyReference body h.tables, h.block⟩
        | none =>
            dsimp only
            split_ifs
            · exact ⟨h.tables, h.block⟩
            · exact h

theorem Holds.readLine (hkept : Kept p q) (h : reader.Holds p q) (line : List Char) :
    (reader.readLine line).Holds p q := by
  unfold Reader.readLine
  by_cases hempty : (content line).isEmpty = true
  · rw [if_pos hempty]
    exact h
  · rw [if_neg hempty]
    unfold readContent
    by_cases hskipped : (reader.skipped != 0) = true
    · rw [if_pos hskipped]
      exact ⟨h.tables, h.block⟩
    · rw [if_neg hskipped]
      cases hblock : reader.block with
      | top => exact h.readAtTop hkept _
      | table name columns => exact h.readInTable hkept hblock _
      | references =>
          dsimp only
          split_ifs
          · exact ⟨h.tables, fun _ _ hopen => nomatch hopen⟩
          · exact ⟨hkept.applyReference _ h.tables, hblock ▸ h.block⟩

theorem Holds.foldl_readLine (hkept : Kept p q) (h : reader.Holds p q) (lines : List (List Char)) :
    (lines.foldl Reader.readLine reader).Holds p q := by
  induction lines generalizing reader with
  | nil => exact h
  | cons line lines ih => exact ih (h.readLine hkept line)

end Reader

theorem Kept.of_parse (hkept : Kept p q) {text : String} {tables : List Table}
    (h : parse text = .ok tables) : ∀ table ∈ tables, q table := by
  have hstart : Reader.Holds p q {} := ⟨List.forall_mem_nil _, fun _ _ hopen => nomatch hopen⟩
  unfold parse at h
  split at h
  · cases h
  · cases h
    exact (hstart.foldl_readLine hkept _).tables

theorem kept_consistent : Kept Column.Consistent Table.Consistent where
  column := consistent_of_column?
  close _ _ hcolumns := hcolumns
  link := by
    intro body link hlink table htable column hcolumn
    obtain ⟨original, horiginal, rfl⟩ := List.mem_map.mp hcolumn
    split_ifs
    · exact Column.consistent_asForeignKey (table_ne_of_link? hlink) _
    · exact htable original horiginal

theorem consistent_of_parse {text : String} {tables : List Table} (h : parse text = .ok tables) :
    ∀ table ∈ tables, table.Consistent :=
  kept_consistent.of_parse h

end RelSchema.Dbml
