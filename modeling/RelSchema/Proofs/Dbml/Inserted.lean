import Mathlib.Data.List.Forall2
import RelSchema.Proofs.Dbml.Effect
import RelSchema.Proofs.Dbml.Line
import RelSchema.Proofs.Dbml.Reader

/-!
# References put into a text

A reference changes what the columns of one name refer to, in one table: the first of its name among
those that are closed before it. Whatever the lines behind it do to the tables, they do with and
without the reference, so that all other columns and tables stay the same.
-/

namespace RelSchema.Dbml

/-- The other column is the same; only if the column has the name may it refer to something else. -/
def SameColumn (name : String) (column other : Column) : Prop :=
  other = column ∨ column.name = name ∧ other.withoutReference = column.withoutReference

/-- The other tables are the same in the same order. Only columns of the source's name may refer to
something else, in a single table: the first one of the source's name, which is among the first
`closed` tables. -/
def SameBut (source : Target) (closed : Nat) (tables others : List Table) : Prop :=
  ∃ before table columns after,
    tables = before ++ table :: after ∧ others = before ++ { table with columns } :: after ∧
      before.length < closed ∧ (∀ earlier ∈ before, earlier.name ≠ source.table) ∧
      table.name = source.table ∧
      List.Forall₂ (SameColumn source.column) table.columns columns

def Link.mark (link : Link) (column : Column) : Column :=
  if column.name == link.source.column then
    column.asForeignKey link.target.table (some link.target.column)
  else column

variable {name : String} {column other : Column} {source : Target} {link : Link} {closed : Nat}
  {tables others : List Table}

theorem Link.name_mark (link : Link) (column : Column) : (link.mark column).name = column.name := by
  unfold mark
  split_ifs <;> rfl

theorem Link.withoutReference_mark (link : Link) (column : Column) :
    (link.mark column).withoutReference = column.withoutReference := by
  unfold mark
  split_ifs <;> rfl

theorem SameColumn.mark (h : SameColumn name column other) (link : Link) :
    SameColumn name (link.mark column) (link.mark other) := by
  rcases h with rfl | ⟨hname, hsame⟩
  · exact Or.inl rfl
  · refine Or.inr ⟨(link.name_mark column).trans hname, ?_⟩
    rw [link.withoutReference_mark, link.withoutReference_mark, hsame]

theorem sameColumn_mark (column : Column) :
    SameColumn link.source.column column (link.mark column) := by
  by_cases hname : column.name = link.source.column
  · exact Or.inr ⟨hname, link.withoutReference_mark column⟩
  · exact Or.inl (if_neg (by simpa using hname))

theorem changeFirst_append_cons {α : Type} {p : α → Bool} {f : α → α} {before : List α} {a : α}
    (hbefore : ∀ b ∈ before, p b = false) (ha : p a = true) (after : List α) :
    changeFirst p f (before ++ a :: after) = before ++ f a :: after := by
  rw [changeFirst_append_of_none hbefore, changeFirst, if_pos ha]

/-- A reference makes the difference at the first table that it names. -/
theorem sameBut_applyReference {body : List Char} (hlink : link? body = some link)
    (h : ∃ table ∈ tables, table.name = link.source.table) :
    SameBut link.source tables.length tables (applyReference tables body) := by
  have hfound : (tables.find? (·.name == link.source.table)).isSome = true := by
    simpa [List.find?_isSome] using h
  obtain ⟨table, htable⟩ := Option.isSome_iff_exists.mp hfound
  obtain ⟨hname, before, after, rfl, hbefore⟩ := List.find?_eq_some_iff_append.mp htable
  have hbefore' : ∀ earlier ∈ before, (earlier.name == link.source.table) = false := by
    simpa using hbefore
  have happly : applyReference (before ++ table :: after) body
      = before ++ linkTable link table :: after := by
    rw [applyReference, hlink]
    exact changeFirst_append_cons hbefore' hname after
  refine ⟨before, table, table.columns.map link.mark, after, rfl, happly, ?_, ?_,
    beq_iff_eq.mp hname, ?_⟩
  · rw [List.length_append, List.length_cons]
    omega
  · exact fun earlier hmem => beq_eq_false_iff_ne.mp (hbefore' earlier hmem)
  · rw [List.forall₂_map_right_iff]
    exact List.forall₂_same.mpr fun column _ => sameColumn_mark column

theorem applyReference_of_ne {body : List Char}
    (h : ∀ link ∈ link? body, ∀ table ∈ tables, table.name ≠ link.source.table) :
    applyReference tables body = tables := by
  unfold applyReference
  cases hlink : link? body with
  | none => rfl
  | some link =>
      exact changeFirst_eq_self fun table htable =>
        beq_eq_false_iff_ne.mpr (h link hlink table htable)

theorem SameBut.applyReference (h : SameBut source closed tables others) (body : List Char) :
    SameBut source closed (applyReference tables body) (applyReference others body) := by
  unfold Dbml.applyReference
  cases link? body with
  | none => exact h
  | some link =>
      obtain ⟨before, table, columns, after, rfl, rfl, hlength, hbefore, hname, hcolumns⟩ := h
      dsimp only
      by_cases hearlier : ∃ earlier ∈ before, (earlier.name == link.source.table) = true
      · rw [changeFirst_append_of_any hearlier, changeFirst_append_of_any hearlier]
        refine ⟨_, table, columns, after, rfl, rfl, ?_, ?_, hname, hcolumns⟩
        · rwa [length_changeFirst]
        · exact forall_mem_changeFirst hbefore fun _ hne => hne
      · have hnone : ∀ earlier ∈ before, (earlier.name == link.source.table) = false := by
          simpa using hearlier
        rw [changeFirst_append_of_none hnone, changeFirst_append_of_none hnone, changeFirst,
          changeFirst]
        by_cases hhere : (table.name == link.source.table) = true
        · rw [if_pos hhere, if_pos hhere]
          refine ⟨before, linkTable link table, columns.map link.mark, after, rfl, rfl, hlength,
            hbefore, hname, ?_⟩
          refine List.forall₂_map_left_iff.mpr (List.forall₂_map_right_iff.mpr ?_)
          exact hcolumns.imp fun _ _ hcolumn => hcolumn.mark link
        · rw [if_neg hhere, if_neg hhere]
          exact ⟨before, table, columns, _, rfl, rfl, hlength, hbefore, hname, hcolumns⟩

theorem SameBut.apply (h : SameBut source closed tables others) (effect : Effect) :
    SameBut source closed (effect.apply tables) (effect.apply others) := by
  cases effect with
  | nothing => exact h
  | refer body => exact h.applyReference body
  | close table =>
      obtain ⟨before, changed, columns, after, rfl, rfl, hrest⟩ := h
      refine ⟨before, changed, columns, after ++ [table], ?_, ?_, hrest⟩ <;>
        exact List.append_assoc before _ [table]

theorem SameBut.foldl_apply (h : SameBut source closed tables others) (effects : List Effect) :
    SameBut source closed (effects.foldl Effect.apply tables)
      (effects.foldl Effect.apply others) := by
  induction effects generalizing tables others with
  | nil => exact h
  | cons effect rest ih => exact ih (h.apply effect)

theorem SameBut.ne_nil (h : SameBut source closed tables others) : others ≠ [] := by
  obtain ⟨before, table, columns, after, -, rfl, -⟩ := h
  simp

/-- The tables of a text into which a reference is put are those of the lines behind it, read with
the reference applied to the tables in front of it. -/
theorem tables_read_insert {s t body : String} (htop : (read s).IsTop)
    (hline : ∀ c ∈ body.toList, Text.isLineBreak c = false)
    (hcomment : withoutComment none body.toList = body.toList) :
    (read (s ++ "\n" ++ ("Ref: " ++ body) ++ "\n" ++ t)).tables
      = (Reader.effects {} (Text.lines t.toList)).foldl Effect.apply
          (applyReference (read s).tables body.toList) := by
  have hbreaks : ∀ c ∈ ("Ref: " ++ body).toList, Text.isLineBreak c = false := by
    intro c hc
    rw [String.toList_append] at hc
    rcases List.mem_append.mp hc with hword | hbody
    · have hall : ∀ c ∈ "Ref: ".toList, Text.isLineBreak c = false := by decide
      exact hall c hword
    · exact hline c hbody
  have hread : (read s).readText ("Ref: " ++ body)
      = (read s).withTables (applyReference (read s).tables body.toList) := by
    rw [Reader.readText_line _ hbreaks, String.toList_append, htop.readLine_reference, hcomment]
  have hbehind : ((read s).withTables (applyReference (read s).tables body.toList)).IsTop := htop
  rw [← readText_read, ← readText_read, hread]
  exact hbehind.tables_readText t

/-- A reference that is put between two texts changes nothing if it cannot be read or if the first
text closes no table of its source's name. Otherwise it changes nothing but what columns of its
source's name refer to in the first table of that name. -/
theorem parse_insert_reference {s t body : String} {tables : List Table} (htop : (read s).IsTop)
    (hline : ∀ c ∈ body.toList, Text.isLineBreak c = false)
    (hquotes : ∀ c ∈ body.toList, c ∉ quotes) (hslashes : ¬ ['/', '/'] <:+: body.toList)
    (h : parse (s ++ "\n" ++ t) = .ok tables) :
    ∃ others, parse (s ++ "\n" ++ ("Ref: " ++ body) ++ "\n" ++ t) = .ok others ∧
      (link? body.toList = none → others = tables) ∧
      ∀ link, link? body.toList = some link →
        ((∀ table ∈ (read s).tables, table.name ≠ link.source.table) → others = tables) ∧
        ((∃ table ∈ (read s).tables, table.name = link.source.table) →
          SameBut link.source (read s).tables.length tables others) := by
  obtain ⟨htables, hne⟩ := parse_eq_ok_iff.mp h
  rw [← readText_read, htop.tables_readText] at htables
  have hinsert := tables_read_insert (t := t) htop hline (withoutComment_eq_self hquotes hslashes)
  have hsame : (∀ link ∈ link? body.toList, ∀ table ∈ (read s).tables,
      table.name ≠ link.source.table) →
      (read (s ++ "\n" ++ ("Ref: " ++ body) ++ "\n" ++ t)).tables = tables := by
    intro hnone
    rw [hinsert, applyReference_of_ne hnone, htables]
  have hchange : ∀ link, link? body.toList = some link →
      (∃ table ∈ (read s).tables, table.name = link.source.table) →
      SameBut link.source (read s).tables.length tables
        (read (s ++ "\n" ++ ("Ref: " ++ body) ++ "\n" ++ t)).tables := by
    intro link hlink hnamed
    rw [hinsert, ← htables]
    exact (sameBut_applyReference hlink hnamed).foldl_apply _
  refine ⟨_, parse_eq_ok_iff.mpr ⟨rfl, ?_⟩, ?_, ?_⟩
  · by_cases hnamed : ∃ link ∈ link? body.toList, ∃ table ∈ (read s).tables,
        table.name = link.source.table
    · obtain ⟨link, hlink, hnamed⟩ := hnamed
      exact (hchange link hlink hnamed).ne_nil
    · rw [hsame (by simpa using hnamed)]
      exact hne
  · intro hlink
    exact hsame (by simp [hlink])
  · intro link hlink
    refine ⟨fun hnone => hsame fun other hother => ?_, hchange link hlink⟩
    rw [Option.some.inj (hother.symm.trans hlink)]
    exact hnone

def tasksText : String :=
  "Table tasks \x7b\n  id integer\n  owner integer\n\x7d"

/-- A table of the same name, and a reference to the first one of this name. -/
def archiveText : String :=
  "Table tasks \x7b\n  owner text\n\x7d\nRef: tasks.id > archive.id"

def ownerBody : String :=
  "tasks.owner > people.id [delete: cascade]"

def ownerLink : Link where
  source := { table := "tasks", column := "owner" }
  target := { table := "people", column := "id" }

def tasksTables : List Table := [
  Reader.closeTable "tasks" [
    Column.asForeignKey { name := "id", type := "integer" } "archive" (some "id"),
    { name := "owner", type := "integer" }],
  Reader.closeTable "tasks" [{ name := "owner", type := "text" }]]

theorem parse_insert_reference_tasks :
    (read tasksText).IsTop ∧ (∀ c ∈ ownerBody.toList, Text.isLineBreak c = false) ∧
      (∀ c ∈ ownerBody.toList, c ∉ quotes) ∧ ¬ ['/', '/'] <:+: ownerBody.toList ∧
      parse (tasksText ++ "\n" ++ archiveText) = .ok tasksTables ∧
      link? ownerBody.toList = some ownerLink ∧
      ∃ others, parse (tasksText ++ "\n" ++ ("Ref: " ++ ownerBody) ++ "\n" ++ archiveText)
          = .ok others ∧ SameBut ownerLink.source 1 tasksTables others := by
  have htop : (read tasksText).IsTop := by decide +kernel
  have hline : ∀ c ∈ ownerBody.toList, Text.isLineBreak c = false := by decide +kernel
  have hquotes : ∀ c ∈ ownerBody.toList, c ∉ quotes := by decide +kernel
  have hslashes : ¬ ['/', '/'] <:+: ownerBody.toList := by decide +kernel
  have htables : parse (tasksText ++ "\n" ++ archiveText) = .ok tasksTables := by decide +kernel
  have hlink : link? ownerBody.toList = some ownerLink := by decide +kernel
  have hclosed : (read tasksText).tables.length = 1 := by decide +kernel
  have hnamed : ∃ table ∈ (read tasksText).tables, table.name = ownerLink.source.table := by
    decide +kernel
  obtain ⟨others, hothers, -, hall⟩ :=
    parse_insert_reference htop hline hquotes hslashes htables
  have hsame := (hall ownerLink hlink).2 hnamed
  rw [hclosed] at hsame
  exact ⟨htop, hline, hquotes, hslashes, htables, hlink, others, hothers, hsame⟩

end RelSchema.Dbml
