import RelSchema.Proofs.Models.Source

/-!
# References as relations make them

Reading gives columns without references, and relations mark them. So the references in the tables
of a source follow from its names and relations alone, and two sources whose tables agree in those
agree in the references of all columns too.
-/

namespace RelSchema

/-- A column reduced to its name and to what it refers to. -/
def Column.links (column : Column) : Column where
  name := column.name
  isForeignKey := column.isForeignKey
  foreignTable := column.foreignTable
  foreignKey := column.foreignKey

def Column.bare (column : Column) : Column where
  name := column.name

def Relation.unnamed (relation : Relation) : Relation :=
  { relation with name := "" }

@[simp]
theorem Relation.kind_unnamed (relation : Relation) : relation.unnamed.kind = relation.kind := rfl

/-- A table reduced to its relations and to what its columns refer to. -/
def Table.links (table : Table) : Table where
  name := table.name
  columns := table.columns.map Column.links
  relations := table.relations.map Relation.unnamed

/-- A table reduced to its relations and the names of its columns. -/
def Table.outline (table : Table) : Table where
  name := table.name
  columns := table.columns.map Column.bare
  relations := table.relations.map Relation.unnamed

theorem Table.outline_links (table : Table) : table.links.outline = table.outline := by
  rw [outline, outline, links]
  simp only [List.map_map]
  rfl

namespace Models

theorem map_links_markForeign (name table key : String) (columns : List Column) :
    (markForeign name table key columns).map Column.links
      = markForeign name table key (columns.map Column.links) := by
  rw [markForeign, markForeign, List.map_map, List.map_map]
  refine List.map_congr_left fun column _ => ?_
  simp only [Function.comp_apply, apply_ite Column.links]
  rfl

theorem map_bare_markForeign (name table key : String) (columns : List Column) :
    (markForeign name table key columns).map Column.bare = columns.map Column.bare :=
  map_markForeign_eq (fun _ _ _ => rfl) name table key columns

theorem map_links_foldl_markLocal (relations : List Relation) (columns : List Column) :
    (relations.foldl markLocal columns).map Column.links
      = (relations.map Relation.unnamed).foldl markLocal (columns.map Column.links) := by
  rw [List.foldl_map]
  refine (List.foldl_hom (List.map Column.links) fun columns relation => ?_).symm
  unfold markLocal
  rw [apply_ite (List.map Column.links), map_links_markForeign]
  rfl

theorem map_bare_foldl_markLocal (relations : List Relation) (columns : List Column) :
    (relations.foldl markLocal columns).map Column.bare = columns.map Column.bare := by
  refine of_foldl_markLocal (p := fun marked => marked.map Column.bare = columns.map Column.bare)
    (fun relation _ marked hmarked => ?_) rfl
  rw [map_bare_markForeign, hmarked]

theorem map_changeLast {α β : Type} {p : α → Bool} {q : β → Bool} {f : α → α} {f' : β → β}
    {g : α → β} (hp : ∀ a, q (g a) = p a) (hf : ∀ a, g (f a) = f' (g a)) (as : List α) :
    (changeLast p f as).map g = changeLast q f' (as.map g) := by
  induction as with
  | nil => rfl
  | cons a as ih =>
      have hany : (as.map g).any q = as.any p := by
        rw [List.any_map]
        exact congrArg as.any (funext hp)
      rw [List.map_cons, changeLast, changeLast, hp, hany]
      split_ifs
      · rw [List.map_cons, hf]
      · rw [List.map_cons, ih]

theorem map_changeLast_eq {α β : Type} {p : α → Bool} {f : α → α} {g : α → β}
    (hf : ∀ a, g (f a) = g a) (as : List α) : (changeLast p f as).map g = as.map g := by
  induction as with
  | nil => rfl
  | cons a as ih =>
      rw [changeLast]
      split_ifs
      · rw [List.map_cons, List.map_cons, hf]
      · rw [List.map_cons, List.map_cons, ih]

theorem map_links_markTarget (owner : String) (tables : List Table) (relation : Relation) :
    (markTarget owner tables relation).map Table.links
      = markTarget owner (tables.map Table.links) relation.unnamed := by
  unfold markTarget
  by_cases hkind : (relation.kind == .hasMany || relation.kind == .hasOne) = true
  · rw [Relation.kind_unnamed, if_pos hkind, if_pos hkind]
    refine map_changeLast (fun table => ?_) (fun table => ?_) tables
    · rfl
    · simp only [Table.links, map_links_markForeign]
      rfl
  · rw [Relation.kind_unnamed, if_neg hkind, if_neg hkind]

theorem map_markTarget_eq {β : Type} {g : Table → β}
    (hg : ∀ (table : Table) (name owner key : String),
      g { table with columns := markForeign name owner key table.columns } = g table)
    (owner : String) (tables : List Table) (relation : Relation) :
    (markTarget owner tables relation).map g = tables.map g := by
  unfold markTarget
  split_ifs
  · exact map_changeLast_eq (fun table => hg table _ _ _) tables
  · rfl

theorem map_foldl_markTarget_eq {β : Type} {g : Table → β}
    (hg : ∀ (table : Table) (name owner key : String),
      g { table with columns := markForeign name owner key table.columns } = g table)
    (owner : String) (relations : List Relation) (tables : List Table) :
    (relations.foldl (markTarget owner) tables).map g = tables.map g :=
  List.foldlRecOn relations (markTarget owner)
    (motive := fun marked => marked.map g = tables.map g) rfl
    fun marked hmarked relation _ => (map_markTarget_eq hg owner marked relation).trans hmarked

/-- What marks on columns leave alone is left alone by the marks of all relations. -/
theorem map_markTargets_eq {β : Type} {g : Table → β}
    (hg : ∀ (table : Table) (name owner key : String),
      g { table with columns := markForeign name owner key table.columns } = g table)
    (tables : List Table) : (markTargets tables).map g = tables.map g := by
  rw [markTargets]
  exact List.foldlRecOn tables _ (motive := fun marked => marked.map g = tables.map g) rfl
    fun marked hmarked owner _ =>
      (map_foldl_markTarget_eq hg owner.name owner.relations marked).trans hmarked

theorem map_links_markTargets (tables : List Table) :
    (markTargets tables).map Table.links = markTargets (tables.map Table.links) := by
  rw [markTargets, markTargets, List.foldl_map]
  refine (List.foldl_hom (List.map Table.links) fun marked owner => ?_).symm
  rw [Table.links, List.foldl_map]
  exact List.foldl_hom (List.map Table.links) fun marked relation =>
    (map_links_markTarget owner.name marked relation).symm

theorem map_outline_markTargets (tables : List Table) :
    (markTargets tables).map Table.outline = tables.map Table.outline := by
  refine map_markTargets_eq (fun table name owner key => ?_) tables
  unfold Table.outline
  rw [map_bare_markForeign]

/-- A table with the foreign keys of its own relations marked. -/
def markOwn (table : Table) : Table :=
  { table with columns := table.relations.foldl markLocal table.columns }

theorem links_of_tableOf {dialect : Dialect} {declaration : Declaration} {table : Table}
    (h : tableOf dialect declaration = .ok table) : table.links = markOwn table.outline := by
  obtain ⟨relations, -, rfl⟩ := tableOf_eq_ok_iff.mp h
  have hread : (declaration.columns.map (columnOf dialect)).map Column.links
      = (declaration.columns.map (columnOf dialect)).map Column.bare := by
    rw [List.map_map, List.map_map]
    exact List.map_congr_left fun field _ => rfl
  simp only [Table.links, Table.outline, markOwn, map_links_foldl_markLocal, hread,
    map_bare_foldl_markLocal]

theorem links_of_parse {source tag : String} {dialect : Dialect} {tables : List Table}
    (h : parse source dialect tag = .ok tables) :
    tables.map Table.links = markTargets ((tables.map Table.outline).map markOwn) := by
  obtain ⟨found, rfl, hfound⟩ := exists_of_parse h
  -- marks on targets leave outlines alone, so those of the marked tables are those of `found`
  rw [map_links_markTargets, map_outline_markTargets, List.map_map]
  congr 1
  refine List.map_congr_left fun table htable => ?_
  obtain ⟨declaration, -, -, hread⟩ := hfound table htable
  exact links_of_tableOf hread

/-- Sources whose tables have the same outlines have the same references, and conversely. -/
theorem map_links_eq_iff {source other tag : String} {dialect : Dialect}
    {tables others : List Table} (h : parse source dialect tag = .ok tables)
    (hother : parse other dialect tag = .ok others) :
    others.map Table.links = tables.map Table.links ↔
      others.map Table.outline = tables.map Table.outline := by
  constructor
  · intro hlinks
    have houtline := congrArg (List.map Table.outline) hlinks
    simpa only [List.map_map, Function.comp_def, Table.outline_links] using houtline
  · intro houtline
    rw [links_of_parse h, links_of_parse hother, houtline]

end Models

end RelSchema
