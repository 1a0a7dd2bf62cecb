import RelSchema.Dbml.Text
import RelSchema.Proofs.Text.Cut

/-!
# What lines do to the closed tables

Which block is open and how many braces are skipped depends on the lines alone. To the tables that
are closed before it a line does one of three things: nothing, it closes another table, or it
applies a reference. So reading behind some tables comes to applying the effects of the lines to
these tables, and the effects are the same whatever the tables are.

A reference changes the first table of its name, so tables in front of those that it can name stay
as they are. If no reference of a text names a table of the text in front of it, then the text is
read behind the other as it is on its own.
-/

namespace RelSchema.Dbml

inductive Effect
  | nothing
  | close (table : Table)
  | refer (body : List Char)
  deriving DecidableEq, Repr

namespace Effect

def apply (tables : List Table) : Effect → List Table
  | nothing => tables
  | close table => tables ++ [table]
  | refer body => applyReference tables body

/-- The link that is made, if the line is a reference that can be read. -/
def link? : Effect → Option Link
  | refer body => Dbml.link? body
  | _ => none

end Effect

namespace Reader

def effectAtTop (line : List Char) : Effect :=
  if (header? line).isSome || opensReferences line then .nothing
  else
    match reference? line with
    | some body => .refer body
    | none => .nothing

def effectOfContent (reader : Reader) (line : List Char) : Effect :=
  if reader.skipped != 0 then .nothing
  else
    match reader.block with
    | .top => effectAtTop line
    | .table name columns =>
      if line == ['}'] then .close (closeTable name columns) else .nothing
    | .references => if line == ['}'] then .nothing else .refer line

def effect (reader : Reader) (line : List Char) : Effect :=
  if (content line).isEmpty then .nothing else reader.effectOfContent (content line)

def effects (reader : Reader) : List (List Char) → List Effect
  | [] => []
  | line :: rest => reader.effect line :: (reader.readLine line).effects rest

def withTables (reader : Reader) (tables : List Table) : Reader :=
  { reader with tables }

variable (reader : Reader) (tables : List Table)

theorem withTables_self : reader.withTables reader.tables = reader := rfl

theorem tables_withTables : (reader.withTables tables).tables = tables := rfl

theorem readInTable_withTables {name : String} {columns : List Column} {line : List Char} :
    (reader.withTables tables).readInTable name columns line
      = (reader.readInTable name columns line).withTables
          ((if line == ['}'] then .close (closeTable name columns) else .nothing : Effect).apply
            tables) := by
  unfold readInTable
  by_cases hclose : (line == ['}']) = true
  · rw [if_pos hclose, if_pos hclose, if_pos hclose]
    rfl
  · rw [if_neg hclose, if_neg hclose, if_neg hclose]
    split_ifs
    · rfl
    · rfl
    · cases column? line <;> rfl

theorem readAtTop_withTables (line : List Char) :
    (reader.withTables tables).readAtTop line
      = (reader.readAtTop line).withTables ((effectAtTop line).apply tables) := by
  unfold readAtTop effectAtTop
  cases header? line with
  | some name => rfl
  | none =>
      by_cases hreferences : opensReferences line = true
      · simp only [hreferences, if_true, Bool.or_true]
        rfl
      · simp only [hreferences, Option.isSome_none, Bool.or_self]
        cases reference? line with
        | some body => rfl
        | none =>
            dsimp only
            split_ifs <;> rfl

theorem readContent_withTables (line : List Char) :
    (reader.withTables tables).readContent line
      = (reader.readContent line).withTables ((reader.effectOfContent line).apply tables) := by
  obtain ⟨before, block, skipped⟩ := reader
  change (Reader.mk tables block skipped).readContent line = _
  unfold readContent effectOfContent
  dsimp only
  by_cases hskipped : (skipped != 0) = true
  · rw [if_pos hskipped, if_pos hskipped, if_pos hskipped]
    rfl
  · rw [if_neg hskipped, if_neg hskipped, if_neg hskipped]
    cases block with
    | top => exact readAtTop_withTables ⟨before, .top, skipped⟩ tables line
    | table name columns => exact readInTable_withTables ⟨before, _, skipped⟩ tables
    | references =>
        dsimp only
        split_ifs <;> rfl

/-- The tables in front of a line matter for nothing but what the line makes of them. -/
theorem readLine_withTables (line : List Char) :
    (reader.withTables tables).readLine line
      = (reader.readLine line).withTables ((reader.effect line).apply tables) := by
  unfold readLine effect
  by_cases hempty : (content line).isEmpty = true
  · rw [if_pos hempty, if_pos hempty, if_pos hempty]
    rfl
  · rw [if_neg hempty, if_neg hempty, if_neg hempty]
    exact readContent_withTables reader tables (content line)

theorem foldl_readLine_withTables (lines : List (List Char)) :
    lines.foldl readLine (reader.withTables tables)
      = (lines.foldl readLine reader).withTables
          ((reader.effects lines).foldl Effect.apply tables) := by
  induction lines generalizing reader tables with
  | nil => rfl
  | cons line rest ih =>
      rw [List.foldl_cons, readLine_withTables, ih, List.foldl_cons, effects, List.foldl_cons]

def readText (reader : Reader) (text : String) : Reader :=
  (Text.lines text.toList).foldl readLine reader

theorem foldl_readLine_of_forall_nil {gap : List (List Char)} (hgap : ∀ line ∈ gap, line = []) :
    gap.foldl readLine reader = reader := by
  induction gap with
  | nil => rfl
  | cons line gap ih =>
      obtain ⟨rfl, hrest⟩ := List.forall_mem_cons.mp hgap
      exact ih hrest

theorem toList_join (s t : String) : (s ++ "\n" ++ t).toList = s.toList ++ '\n' :: t.toList := by
  simp

theorem readText_append (s t : String) :
    reader.readText (s ++ "\n" ++ t) = (reader.readText s).readText t := by
  obtain ⟨gap, hgap, hlines⟩ := Text.exists_linesAfter_append_break [] s.toList t.toList
  rw [readText, toList_join, Text.lines, hlines, List.foldl_append, List.foldl_append,
    foldl_readLine_of_forall_nil _ hgap]
  rfl

theorem readText_line {line : String} (hline : ∀ c ∈ line.toList, Text.isLineBreak c = false) :
    reader.readText line = reader.readLine line.toList := by
  have hbreak : reader.readText (line ++ "\n" ++ "") = reader.readText line :=
    readText_append reader line ""
  rw [← hbreak, readText, toList_join, Text.lines_append_break hline]
  rfl

/-- Whether a reader stands outside all blocks. -/
def IsTop (reader : Reader) : Prop :=
  reader.block = .top ∧ reader.skipped = 0

instance (reader : Reader) : Decidable reader.IsTop :=
  inferInstanceAs (Decidable (_ ∧ _))

variable {reader}

theorem IsTop.eq_withTables (h : reader.IsTop) : reader = withTables {} reader.tables := by
  obtain ⟨tables, block, skipped⟩ := reader
  obtain ⟨rfl, rfl⟩ : block = .top ∧ skipped = 0 := h
  rfl

/-- Outside all blocks a text has the effects that it has on its own. -/
theorem IsTop.tables_readText (h : reader.IsTop) (text : String) :
    (reader.readText text).tables
      = (effects {} (Text.lines text.toList)).foldl Effect.apply reader.tables := by
  rw [h.eq_withTables, readText, foldl_readLine_withTables]
  rfl

end Reader

theorem readText_read (s t : String) : (read s).readText t = read (s ++ "\n" ++ t) :=
  (Reader.readText_append {} s t).symm

theorem tables_read (text : String) :
    (read text).tables = (Reader.effects {} (Text.lines text.toList)).foldl Effect.apply [] :=
  Reader.IsTop.tables_readText ⟨rfl, rfl⟩ text

theorem parse_eq_ok_iff {text : String} {tables : List Table} :
    parse text = .ok tables ↔ (read text).tables = tables ∧ tables ≠ [] := by
  unfold parse
  cases htables : (read text).tables with
  | nil => simp
  | cons table rest =>
      constructor
      · intro h
        cases h
        exact ⟨rfl, List.cons_ne_nil _ _⟩
      · rintro ⟨rfl, -⟩
        rfl

section ChangeFirst

variable {α : Type} {p : α → Bool} {f : α → α} {as : List α}

theorem length_changeFirst (p : α → Bool) (f : α → α) (as : List α) :
    (changeFirst p f as).length = as.length := by
  induction as with
  | nil => rfl
  | cons a as ih =>
      unfold changeFirst
      split_ifs <;> simp [ih]

theorem mem_changeFirst {b : α} (h : b ∈ changeFirst p f as) :
    b ∈ as ∨ ∃ a ∈ as, p a = true ∧ b = f a := by
  induction as with
  | nil => cases h
  | cons a as ih =>
      rw [changeFirst] at h
      split_ifs at h with ha
      · rcases List.mem_cons.mp h with rfl | hb
        · exact Or.inr ⟨a, List.mem_cons_self, ha, rfl⟩
        · exact Or.inl (List.mem_cons_of_mem a hb)
      · rcases List.mem_cons.mp h with rfl | hb
        · exact Or.inl List.mem_cons_self
        · rcases ih hb with hb | ⟨c, hc, hpc, rfl⟩
          · exact Or.inl (List.mem_cons_of_mem a hb)
          · exact Or.inr ⟨c, List.mem_cons_of_mem a hc, hpc, rfl⟩

theorem changeFirst_append_of_none (h : ∀ a ∈ as, p a = false) (bs : List α) :
    changeFirst p f (as ++ bs) = as ++ changeFirst p f bs := by
  induction as with
  | nil => rfl
  | cons a as ih =>
      obtain ⟨ha, hrest⟩ := List.forall_mem_cons.mp h
      rw [List.cons_append, changeFirst, ha, if_neg Bool.false_ne_true, ih hrest, List.cons_append]

theorem changeFirst_eq_self (h : ∀ a ∈ as, p a = false) : changeFirst p f as = as := by
  simpa [changeFirst] using changeFirst_append_of_none (f := f) h []

theorem changeFirst_append_of_any (h : ∃ a ∈ as, p a = true) (bs : List α) :
    changeFirst p f (as ++ bs) = changeFirst p f as ++ bs := by
  induction as with
  | nil => simp at h
  | cons a as ih =>
      cases ha : p a with
      | true => simp [changeFirst, ha]
      | false =>
          have hrest : ∃ b ∈ as, p b = true := by simpa [ha] using h
          simp [changeFirst, ha, ih hrest]

end ChangeFirst

theorem length_applyReference (tables : List Table) (body : List Char) :
    (applyReference tables body).length = tables.length := by
  unfold applyReference
  cases link? body with
  | none => rfl
  | some link => exact length_changeFirst _ _ tables

/-- Behind a reference a table is one from before it, or one that it names with its link. -/
theorem of_mem_applyReference {tables : List Table} {body : List Char} {table : Table}
    (h : table ∈ applyReference tables body) :
    table ∈ tables ∨ ∃ link, link? body = some link ∧ ∃ earlier ∈ tables,
      earlier.name = link.source.table ∧ table = linkTable link earlier := by
  unfold applyReference at h
  cases hlink : link? body with
  | none =>
      rw [hlink] at h
      exact Or.inl h
  | some link =>
      rw [hlink] at h
      refine (mem_changeFirst h).imp_right ?_
      rintro ⟨earlier, hearlier, hname, rfl⟩
      exact ⟨link, rfl, earlier, hearlier, beq_iff_eq.mp hname, rfl⟩

variable {closed : List Table}

theorem applyReference_append {body : List Char}
    (h : ∀ link ∈ link? body, ∀ table ∈ closed, link.source.table ≠ table.name)
    (tables : List Table) :
    applyReference (closed ++ tables) body = closed ++ applyReference tables body := by
  unfold applyReference
  cases hlink : link? body with
  | none => rfl
  | some link =>
      refine changeFirst_append_of_none (fun table htable => ?_) tables
      exact beq_eq_false_iff_ne.mpr (h link hlink table htable).symm

theorem Effect.apply_append {effect : Effect}
    (h : ∀ link ∈ effect.link?, ∀ table ∈ closed, link.source.table ≠ table.name)
    (tables : List Table) : effect.apply (closed ++ tables) = closed ++ effect.apply tables := by
  cases effect with
  | nothing => rfl
  | close table => exact List.append_assoc closed tables [table]
  | refer body => exact applyReference_append h tables

theorem foldl_apply_append {effects : List Effect}
    (h : ∀ link ∈ effects.filterMap Effect.link?, ∀ table ∈ closed,
      link.source.table ≠ table.name) (tables : List Table) :
    effects.foldl Effect.apply (closed ++ tables)
      = closed ++ effects.foldl Effect.apply tables := by
  induction effects generalizing tables with
  | nil => rfl
  | cons effect rest ih =>
      have hfirst : ∀ link ∈ effect.link?, ∀ table ∈ closed, link.source.table ≠ table.name :=
        fun link hlink => h link (List.mem_filterMap.mpr ⟨effect, List.mem_cons_self, hlink⟩)
      have hrest : ∀ link ∈ rest.filterMap Effect.link?, ∀ table ∈ closed,
          link.source.table ≠ table.name := by
        intro link hlink
        obtain ⟨other, hother, hread⟩ := List.mem_filterMap.mp hlink
        exact h link (List.mem_filterMap.mpr ⟨other, List.mem_cons_of_mem effect hother, hread⟩)
      rw [List.foldl_cons, List.foldl_cons, Effect.apply_append hfirst, ih hrest]

/-- The links that the references of a text make, in the order of the text. -/
def links (text : String) : List Link :=
  (Reader.effects {} (Text.lines text.toList)).filterMap Effect.link?

/-- Behind a text that leaves no block open, a text without references to its tables is read as on
its own. -/
theorem tables_read_append {s t : String} (htop : (read s).IsTop)
    (hlinks : ∀ link ∈ links t, ∀ table ∈ (read s).tables, link.source.table ≠ table.name) :
    (read (s ++ "\n" ++ t)).tables = (read s).tables ++ (read t).tables := by
  rw [← readText_read, htop.tables_readText, tables_read t]
  simpa using foldl_apply_append hlinks []

/-- If the first text leaves no block open and no reference of the second one names a table of the
first, then together they have the tables of both. -/
theorem parse_append {s t : String} {first second : List Table} (htop : (read s).IsTop)
    (hfirst : parse s = .ok first) (hsecond : parse t = .ok second)
    (hlinks : ∀ link ∈ links t, ∀ table ∈ first, link.source.table ≠ table.name) :
    parse (s ++ "\n" ++ t) = .ok (first ++ second) := by
  obtain ⟨rfl, hne⟩ := parse_eq_ok_iff.mp hfirst
  obtain ⟨rfl, -⟩ := parse_eq_ok_iff.mp hsecond
  rw [parse_eq_ok_iff, tables_read_append htop hlinks]
  exact ⟨rfl, List.append_ne_nil_of_left_ne_nil hne _⟩

def usersText : String :=
  "Table users \x7b\n  id integer [pk]\n\x7d\n\nEnum role \x7b\n  admin\n\x7d"

def usersTable : Table :=
  Reader.closeTable "users" [
    { name := "id", type := "integer", isPrimaryKey := true, isNullable := false }]

/-- A table between a reference that comes too early and a block with one that does not. -/
def postsText : String :=
  "Ref: posts.author_id > posts.id\nTable posts \x7b\n  author_id integer\n  indexes \x7b\n" ++
    "    id [unique]\n  \x7d\n\x7d\nRef \x7b\n  posts.author_id > users.id\n\x7d"

def postsTable : Table :=
  Reader.closeTable "posts" [
    Column.asForeignKey { name := "author_id", type := "integer" } "users" (some "id")]

theorem parse_append_posts :
    (read usersText).IsTop ∧ parse usersText = .ok [usersTable] ∧
      parse postsText = .ok [postsTable] ∧
      (∀ link ∈ links postsText, ∀ table ∈ [usersTable], link.source.table ≠ table.name) ∧
      parse (usersText ++ "\n" ++ postsText) = .ok [usersTable, postsTable] := by
  have htop : (read usersText).IsTop := by decide +kernel
  have hfirst : parse usersText = .ok [usersTable] := by decide +kernel
  have hsecond : parse postsText = .ok [postsTable] := by decide +kernel
  have hlinks : ∀ link ∈ links postsText, ∀ table ∈ [usersTable],
      link.source.table ≠ table.name := by decide +kernel
  exact ⟨htop, hfirst, hsecond, hlinks, parse_append htop hfirst hsecond hlinks⟩

end RelSchema.Dbml
