import RelSchema.Proofs.Models.Claim
import RelSchema.Proofs.Models.Reread

/-!
# Keys of relations to many

The options of a list name the field of its target that refers back to the owner. The list takes the
name of this field in snake case for its key, without a look at the column that the options of the
field give. So it claims the column of the field exactly if this is the name that the column has.
-/

namespace RelSchema

/-- Whether the columns of a name, of which there is one, refer to a table. -/
def Table.Links (table : Table) (column owner : String) : Prop :=
  (∃ linked ∈ table.columns, linked.name = column) ∧
    ∀ linked ∈ table.columns, linked.name = column →
      linked.isForeignKey = true ∧ linked.foreignTable = some owner

namespace Models

/-- Whether a field of the owner claims a column of the target, as a relation of its own that
belongs to what it refers to, or as one to one or to many that refers to it. -/
def Claims (owner : Declaration) (field : Field) (target : Declaration) (column : String) : Prop :=
  ∃ relation, relationOf owner field = .ok relation ∧ relation.foreignKey = column ∧
    (relation.kind = .belongsTo ∧ owner = target ∨
      (relation.kind = .hasMany ∨ relation.kind = .hasOne) ∧
        Text.sameFold target.tableName relation.table = true)

/-- Whether relations find the structure by the name of its table. Of several tables of a name up to
case they find the last one. -/
def IsTarget (found : List Declaration) (target : Declaration) : Prop :=
  ∃ before after, found = before ++ target :: after ∧
    ∀ other ∈ after, Text.sameFold other.tableName target.tableName = false

variable {tag source : String} {dialect : Dialect} {owner target : Declaration} {field : Field}

theorem mem_relations_iff {declaration : Declaration} {source : List Char}
    (h : declaration ∈ declarations tag source)
    (hfield : field ∈ declaration.columns ++ declaration.relations) :
    field ∈ declaration.relations ↔ isRelationType field.type = true := by
  obtain ⟨⟨name, text⟩, -, hread⟩ := List.mem_filterMap.mp h
  dsimp only [readDeclaration?] at hread
  split_ifs at hread
  cases hread
  simp only [List.partition_eq_filter_filter, List.mem_append, List.mem_filter,
    Function.comp_apply, Bool.not_eq_true'] at hfield ⊢
  constructor
  · exact And.right
  · intro hrelation
    rcases hfield with ⟨hmem, -⟩ | ⟨hmem, -⟩
    · exact ⟨hmem, hrelation⟩
    · exact ⟨hmem, hrelation⟩

theorem relationOf_list (h : IsWord target.name) (htype : field.type = "[]" ++ target.name) :
    relationOf owner field = .ok (relationTo owner field target.name) :=
  relationOf_eq_ok_iff.mpr ⟨target.name, by rw [htype, targetOf?_list h], rfl⟩

theorem kind_relationTo_ne (hlist : isListType field.type = true) (target : String) :
    (relationTo owner field target).kind ≠ .belongsTo := by
  rw [relationTo, if_pos hlist]
  cases field.options.given? "many2many" with
  | some joinTable => exact RelationKind.noConfusion
  | none => exact RelationKind.noConfusion

/-- A list claims what its options name, in snake case, unless they also name a table in between. -/
theorem claims_list_iff (h : IsWord target.name) (htype : field.type = "[]" ++ target.name)
    {name column : String} (hkey : field.options.given? "foreignkey" = some name) :
    Claims owner field target column ↔
      field.options.given? "many2many" = none ∧ Naming.toSnakeCase name = column := by
  have hrelation : relationOf owner field = .ok (relationTo owner field target.name) :=
    relationOf_list h htype
  have hlist : isListType field.type = true := by rw [htype, isListType_list]
  have htable := table_relationTo owner field target.name
  rw [relationTo, if_pos hlist] at hrelation htable
  unfold Claims
  cases hjoin : field.options.given? "many2many" with
  | some joinTable =>
      rw [hjoin] at hrelation
      simp [hrelation]
  | none =>
      rw [hjoin] at hrelation
      have hsame : Text.sameFold target.tableName (tableNameFor target.name) = true :=
        beq_self_eq_true _
      simp [hrelation, backReference, hkey, hsame]

theorem names_markTargets {found : List Declaration} {read : List Table}
    (hread : found.mapM (tableOf dialect) = .ok read) :
    (markTargets read).map (·.name) = found.map (·.tableName) := by
  rw [map_markTargets_eq (g := Table.name) (fun _ _ _ _ => rfl)]
  exact map_eq_map_of_mapM (fun _ _ => name_of_tableOf) hread

theorem exists_getElem?_markTargets {found : List Declaration} {read : List Table}
    (hread : found.mapM (tableOf dialect) = .ok read) {i : Nat} (hplace : found[i]? = some target) :
    ∃ table, (markTargets read)[i]? = some table ∧ table.name = target.tableName := by
  have hplaces := congrArg (·[i]?) (names_markTargets hread)
  simp only [List.getElem?_map, hplace, Option.map_some] at hplaces
  exact Option.map_eq_some_iff.mp hplaces

/-- Among tables with names of their own, the one of the name of a structure stands where the
structure does. -/
theorem getElem?_markTargets_of_name {found : List Declaration} {read : List Table}
    (hread : found.mapM (tableOf dialect) = .ok read) (hnames : (found.map (·.tableName)).Nodup)
    {i : Nat} (hplace : found[i]? = some target) {table : Table} (htable : table ∈ markTargets read)
    (hname : table.name = target.tableName) : (markTargets read)[i]? = some table := by
  rw [← names_markTargets hread] at hnames
  obtain ⟨other, hother, hsame⟩ := exists_getElem?_markTargets hread hplace
  rwa [List.inj_on_of_nodup_map hnames htable (List.mem_of_getElem? hother)
    (hname.trans hsame.symm)]

/-- The relations of the tables are those of the fields of their structures. -/
theorem exists_relation_iff {found : List Declaration} {read : List Table}
    (hread : found.mapM (tableOf dialect) = .ok read) {p : String → Relation → Prop} :
    (∃ table ∈ read, ∃ relation ∈ table.relations, p table.name relation) ↔
      ∃ owner ∈ found, ∃ field ∈ owner.relations, ∃ relation,
        relationOf owner field = .ok relation ∧ p owner.tableName relation := by
  constructor
  · rintro ⟨table, htable, relation, hrelation, hp⟩
    obtain ⟨owner, howner, htableOf⟩ := exists_of_mem_mapM hread htable
    obtain ⟨hname, hrelations, -⟩ := of_tableOf htableOf
    obtain ⟨field, hfield, hof⟩ := exists_of_mem_mapM hrelations hrelation
    exact ⟨owner, howner, field, hfield, relation, hof, hname ▸ hp⟩
  · rintro ⟨owner, howner, field, hfield, relation, hof, hp⟩
    obtain ⟨table, htable, htableOf⟩ := exists_mem_of_mapM hread howner
    obtain ⟨hname, hrelations, -⟩ := of_tableOf htableOf
    obtain ⟨other, hrelation, hother⟩ := exists_mem_of_mapM hrelations hfield
    obtain rfl : relation = other := Except.ok.inj (hof.symm.trans hother)
    exact ⟨table, htable, relation, hrelation, hname ▸ hp⟩

theorem hasNamesake_markTargets {found : List Declaration} {read : List Table}
    (hread : found.mapM (tableOf dialect) = .ok read) (i : Nat) (name : String) :
    hasNamesake (markTargets read) i name
      = (found.drop (i + 1)).any fun other => Text.sameFold other.tableName name := by
  have hdrop := congrArg (List.drop (i + 1)) (names_markTargets hread)
  rw [← List.map_drop, ← List.map_drop] at hdrop
  have hany := congrArg (List.any · (Text.sameFold · name)) hdrop
  rw [List.any_map, List.any_map] at hany
  exact hany

/-- Where the table of each structure has a name of its own, the last one up to case is the target
of relations. -/
theorem isTarget_iff {found : List Declaration} (hnames : (found.map (·.tableName)).Nodup) {i : Nat}
    (hplace : found[i]? = some target) :
    IsTarget found target ↔
      (found.drop (i + 1)).any (fun other => Text.sameFold other.tableName target.tableName)
        = false := by
  obtain ⟨hi, hget⟩ := List.getElem?_eq_some_iff.mp hplace
  have hsplit : found = found.take i ++ target :: found.drop (i + 1) := by
    rw [← hget, List.getElem_cons_drop, List.take_append_drop]
  rw [List.any_eq_false]
  constructor
  · rintro ⟨before, after, hfound, hafter⟩ other hother
    have hbefore : found[before.length]? = some target := by
      rw [hfound, List.getElem?_append_right (Nat.le_refl _), Nat.sub_self]
      rfl
    have hplaces : i = before.length :=
      (List.getElem?_inj hi hnames.of_map).mp (hplace.trans hbefore.symm)
    have hdrop : found.drop (i + 1) = after := by
      rw [hfound, hplaces, ← List.drop_drop]
      simp
    rw [hdrop] at hother
    simpa using hafter other hother
  · intro hlast
    exact ⟨found.take i, found.drop (i + 1), hsplit, fun other hother => by
      simpa using hlast other hother⟩

/-- The claims at the place of a structure are those of its own fields that belong to what they
refer to, and if none behind it has its name those of the fields of all structures that refer to
it. -/
theorem mem_claimsAt_iff {found : List Declaration} {read : List Table}
    (hread : found.mapM (tableOf dialect) = .ok read) {i : Nat} (hplace : found[i]? = some target)
    {table : Table} (htable : (markTargets read)[i]? = some table) {claim : Claim} :
    claim ∈ claimsAt (markTargets read) i table ↔
      (∃ field ∈ target.relations, ∃ relation, relationOf target field = .ok relation ∧
        relation.kind = .belongsTo ∧
          claim = ⟨relation.foreignKey, relation.table, relation.referenceKey⟩) ∨
      (found.drop (i + 1)).any (fun other => Text.sameFold other.tableName target.tableName)
          = false ∧
        ∃ owner ∈ found, ∃ field ∈ owner.relations, ∃ relation,
          relationOf owner field = .ok relation ∧
            (relation.kind = .hasMany ∨ relation.kind = .hasOne) ∧
              Text.sameFold target.tableName relation.table = true ∧
              claim = ⟨relation.foreignKey, owner.tableName, relation.referenceKey⟩ := by
  obtain ⟨hname, hrelations, -⟩ := table_markTargets hread hplace htable
  have hown : claim ∈ table.ownClaims ↔
      ∃ field ∈ target.relations, ∃ relation, relationOf target field = .ok relation ∧
        relation.kind = .belongsTo ∧
          claim = ⟨relation.foreignKey, relation.table, relation.referenceKey⟩ := by
    rw [mem_ownClaims_iff]
    constructor
    · rintro ⟨relation, hrelation, hclaim⟩
      obtain ⟨field, hfield, hof⟩ := exists_of_mem_mapM hrelations hrelation
      exact ⟨field, hfield, relation, hof, hclaim⟩
    · rintro ⟨field, hfield, relation, hof, hclaim⟩
      obtain ⟨other, hother, hotherOf⟩ := exists_mem_of_mapM hrelations hfield
      obtain rfl : relation = other := Except.ok.inj (hof.symm.trans hotherOf)
      exact ⟨relation, hother, hclaim⟩
  rw [claimsAt, List.mem_append, hown, hname, hasNamesake_markTargets hread,
    flatMap_claimsOn_markTargets]
  refine or_congr_right ?_
  cases (found.drop (i + 1)).any fun other => Text.sameFold other.tableName target.tableName with
  | true => simp
  | false =>
      rw [if_neg Bool.false_ne_true, mem_claimsOn_iff, eq_self_iff_true, true_and]
      exact exists_relation_iff hread (p := fun name relation =>
        (relation.kind = .hasMany ∨ relation.kind = .hasOne) ∧
          Text.sameFold target.tableName relation.table = true ∧
          claim = ⟨relation.foreignKey, name, relation.referenceKey⟩)

/-- The columns of a name in the table of a structure refer to what the first claim on them says. -/
theorem links_iff {found : List Declaration} {read : List Table}
    (hread : found.mapM (tableOf dialect) = .ok read) {i : Nat} (hplace : found[i]? = some target)
    {table : Table} (htable : (markTargets read)[i]? = some table) {name column owner : String}
    (hcolumn : target.columnFor? name = some column) :
    table.Links column owner ↔
      ∃ claim, (claimsAt (markTargets read) i table).find? (·.column == column) = some claim ∧
        claim.table = owner := by
  obtain ⟨-, -, hcolumns⟩ := table_markTargets hread hplace htable
  obtain ⟨field, hfield, hname⟩ := Option.map_eq_some_iff.mp hcolumn
  have hforeign (field : Field) : (columnOf dialect field).isForeignKey = false := rfl
  have hread (field : Field) :=
    Column.foldl_claimed (hforeign field) (claimsAt (markTargets read) i table)
  have hmem (field : Field) (hfield : field ∈ target.columns) :
      (claimsAt (markTargets read) i table).foldl Column.claimed (columnOf dialect field)
        ∈ table.columns := by
    rw [hcolumns]
    exact List.mem_map_of_mem hfield
  constructor
  · rintro ⟨-, hlinked⟩
    obtain ⟨hforeign, howner⟩ := hlinked _ (hmem field (List.mem_of_find?_eq_some hfield))
      (by rw [Column.name_foldl_claimed]; exact hname)
    rw [hread, show (columnOf dialect field).name = column from hname] at hforeign howner
    cases hclaim : (claimsAt (markTargets read) i table).find? (·.column == column) with
    | none =>
        rw [hclaim] at hforeign
        cases hforeign
    | some claim =>
        rw [hclaim] at howner
        exact ⟨claim, rfl, Option.some.inj howner⟩
  · rintro ⟨claim, hclaim, howner⟩
    refine ⟨⟨_, hmem field (List.mem_of_find?_eq_some hfield), ?_⟩, fun linked hlinked hsame => ?_⟩
    · rw [Column.name_foldl_claimed]
      exact hname
    · rw [hcolumns] at hlinked
      obtain ⟨other, -, rfl⟩ := List.mem_map.mp hlinked
      rw [Column.name_foldl_claimed] at hsame
      rw [hread, hsame, hclaim]
      exact ⟨rfl, congrArg some howner⟩

/-- Where one field alone claims a column, and not as one that belongs to its target, every claim on
the column is that of this field. -/
theorem of_claim_of_sole {found : List Declaration} {read : List Table}
    (hread : found.mapM (tableOf dialect) = .ok read) {i : Nat} (hplace : found[i]? = some target)
    {table : Table} (htable : (markTargets read)[i]? = some table) {column : String}
    (hkind : ∀ relation, relationOf owner field = .ok relation → relation.kind ≠ .belongsTo)
    (hsole : ∀ other ∈ found, ∀ otherField ∈ other.relations,
      Claims other otherField target column → other = owner ∧ otherField = field)
    {claim : Claim}
    (hclaim : (claimsAt (markTargets read) i table).find? (·.column == column) = some claim) :
    field ∈ owner.relations ∧ Claims owner field target column ∧
      (found.drop (i + 1)).any (fun other => Text.sameFold other.tableName target.tableName)
        = false ∧ claim.table = owner.tableName := by
  have hcolumn : claim.column = column := by simpa using List.find?_some hclaim
  rcases (mem_claimsAt_iff hread hplace htable).mp (List.mem_of_find?_eq_some hclaim) with
    ⟨other, hother, relation, hof, hbelongs, rfl⟩ |
    ⟨hlast, other, hmem, otherField, hother, relation, hof, hmany, hsame, rfl⟩
  · have hclaims : Claims target other target column :=
      ⟨relation, hof, hcolumn, Or.inl ⟨hbelongs, rfl⟩⟩
    obtain ⟨rfl, rfl⟩ := hsole target (List.mem_of_getElem? hplace) other hother hclaims
    exact absurd hbelongs (hkind relation hof)
  · have hclaims : Claims other otherField target column :=
      ⟨relation, hof, hcolumn, Or.inr ⟨hmany, hsame⟩⟩
    obtain ⟨rfl, rfl⟩ := hsole other hmem otherField hother hclaims
    refine ⟨hother, hclaims, hlast, ?_⟩
    dsimp only

/-- A field that alone claims a column, and not as one that belongs to its target, has the column
refer to its owner's table exactly if its structure finds that of the column. -/
theorem links_iff_of_sole {found : List Declaration} {read : List Table}
    (hread : found.mapM (tableOf dialect) = .ok read) {i : Nat} (hplace : found[i]? = some target)
    {table : Table} (htable : (markTargets read)[i]? = some table) {name column : String}
    (hcolumn : target.columnFor? name = some column) (howner : owner ∈ found)
    (hkind : ∀ relation, relationOf owner field = .ok relation → relation.kind ≠ .belongsTo)
    (hsole : ∀ other ∈ found, ∀ otherField ∈ other.relations,
      Claims other otherField target column → other = owner ∧ otherField = field) :
    table.Links column owner.tableName ↔
      field ∈ owner.relations ∧ Claims owner field target column ∧
        (found.drop (i + 1)).any (fun other => Text.sameFold other.tableName target.tableName)
          = false := by
  rw [links_iff hread hplace htable hcolumn]
  constructor
  · rintro ⟨claim, hclaim, -⟩
    obtain ⟨hfield, hclaims, hlast, -⟩ :=
      of_claim_of_sole hread hplace htable hkind hsole hclaim
    exact ⟨hfield, hclaims, hlast⟩
  · rintro ⟨hfield, ⟨relation, hof, hname, hrole⟩, hlast⟩
    obtain ⟨hmany, hsame⟩ := hrole.resolve_left fun hbelongs => hkind relation hof hbelongs.1
    have hmem := (mem_claimsAt_iff hread hplace htable).mpr
      (Or.inr ⟨hlast, owner, howner, field, hfield, relation, hof, hmany, hsame, rfl⟩)
    have hsome : ((claimsAt (markTargets read) i table).find? (·.column == column)).isSome :=
      List.find?_isSome.mpr ⟨_, hmem, beq_iff_eq.mpr hname⟩
    obtain ⟨claim, hclaim⟩ := Option.isSome_iff_exists.mp hsome
    obtain ⟨-, -, -, htarget⟩ := of_claim_of_sole hread hplace htable hkind hsole hclaim
    exact ⟨claim, hclaim, htarget⟩

/-- A structure has a list of another one, under its own and the only claim on the column for the
field that the options of the list name. -/
structure ListKey (found : List Declaration) (owner target : Declaration) (list : Field)
    (name column : String) : Prop where
  owner_mem : owner ∈ found
  target_mem : target ∈ found
  columnFor : target.columnFor? name = some column
  list_mem : list ∈ owner.columns ++ owner.relations
  list_type : list.type = "[]" ++ target.name
  list_key : list.options.given? "foreignkey" = some name
  nodup_names : (found.map (·.tableName)).Nodup
  sole : ∀ other ∈ found, ∀ field ∈ other.relations,
    Claims other field target column → other = owner ∧ field = list

theorem exists_parse_modelled_iff {tag source : String} {dialect : Dialect} :
    (∃ tables, parse source dialect tag = .ok tables) ↔
      ∀ declaration ∈ modelled tag source, ∀ field ∈ declaration.relations,
        (targetOf? field.type).isSome := by
  simp only [exists_parse_iff, modelled, List.mem_filter, targetOf?_isSome_iff, and_imp,
    Bool.not_eq_true', List.isEmpty_eq_false_iff, ne_eq]

/-- The column of the field that a list names for its key refers to the table of the list's owner
exactly if the source can be read, the column has the name of the field in snake case, and the list
is a relation that finds its target and does not go through a table in between. A field with options
for another name has a column that the list does not look for. -/
theorem list_key_iff {tag source : String} (dialect : Dialect) {owner target : Declaration}
    {list : Field} {name column : String}
    (h : ListKey (modelled tag source) owner target list name column) :
    (∃ tables, parse source dialect tag = .ok tables ∧
        ∃ table ∈ tables, table.name = target.tableName ∧ table.Links column owner.tableName) ↔
      (∀ declaration ∈ modelled tag source, ∀ field ∈ declaration.relations,
        (targetOf? field.type).isSome) ∧
      Scalar.isScalarType target.name = false ∧ list.options.given? "many2many" = none ∧
      IsTarget (modelled tag source) target ∧ Naming.toSnakeCase name = column := by
  obtain ⟨howner, htarget, hcolumn, hlist, htype, hkey, hnames, hsole⟩ := h
  have hword : IsWord target.name :=
    isWord_of_mem_declarations (List.mem_filter.mp htarget).1
  have hrelation : list ∈ owner.relations ↔ Scalar.isScalarType target.name = false := by
    rw [mem_relations_iff (List.mem_filter.mp howner).1 hlist, htype, isRelationType_list,
      Bool.not_eq_true']
  have hclaim : Claims owner list target column ↔
      list.options.given? "many2many" = none ∧ Naming.toSnakeCase name = column :=
    claims_list_iff hword htype hkey
  have hkind (relation : Relation) (hof : relationOf owner list = .ok relation) :
      relation.kind ≠ .belongsTo := by
    rw [relationOf_list hword htype] at hof
    rw [← Except.ok.inj hof]
    exact kind_relationTo_ne (by rw [htype, isListType_list]) target.name
  obtain ⟨i, hplace⟩ := List.mem_iff_getElem?.mp htarget
  rw [isTarget_iff hnames hplace]
  constructor
  · rintro ⟨tables, htables, table, htable, hname, hlinks⟩
    refine ⟨exists_parse_modelled_iff.mp ⟨tables, htables⟩, ?_⟩
    obtain ⟨read, hread, rfl⟩ := parse_eq_ok_iff.mp htables
    have hget := getElem?_markTargets_of_name hread hnames hplace htable hname
    obtain ⟨hmem, hclaims, hlast⟩ :=
      (links_iff_of_sole hread hplace hget hcolumn howner hkind hsole).mp hlinks
    exact ⟨hrelation.mp hmem, (hclaim.mp hclaims).1, hlast, (hclaim.mp hclaims).2⟩
  · rintro ⟨hread, hscalar, hdirect, hlast, hsnake⟩
    obtain ⟨tables, htables⟩ := exists_parse_modelled_iff.mpr hread
    obtain ⟨read, hread, rfl⟩ := parse_eq_ok_iff.mp htables
    obtain ⟨table, htable, hname⟩ := exists_getElem?_markTargets hread hplace
    refine ⟨_, htables, table, List.mem_of_getElem? htable, hname, ?_⟩
    exact (links_iff_of_sole hread hplace htable hcolumn howner hkind hsole).mpr
      ⟨hrelation.mpr hscalar, hclaim.mpr ⟨hdirect, hsnake⟩, hlast⟩

/-- A source with a list whose key is a field with the text behind its type. -/
def postsSource (tagText : String) : String :=
  "type User struct \x7b\nID uint\nPosts []Post \x60gorm:\"foreignKey:AuthorID\"\x60\n\x7d\n" ++
    "type Post struct \x7b\nID uint\nAuthorID uint" ++ tagText ++ "\n\x7d\n"

def postsField : Field where
  name := "Posts"
  type := "[]Post"
  options := [("foreignkey", "AuthorID")]

def postsOwner : Declaration where
  name := "User"
  columns := [⟨"ID", "uint", []⟩]
  relations := [postsField]

def postsTarget (options : Options) : Declaration where
  name := "Post"
  columns := [⟨"ID", "uint", []⟩, ⟨"AuthorID", "uint", options⟩]
  relations := []

theorem listKey_posts {options : Options} {column : String}
    (hcolumn : (postsTarget options).columnFor? "AuthorID" = some column) :
    ListKey [postsOwner, postsTarget options] postsOwner (postsTarget options) postsField "AuthorID"
      column where
  owner_mem := List.mem_cons_self
  target_mem := List.mem_cons_of_mem _ List.mem_cons_self
  columnFor := hcolumn
  list_mem := List.mem_append_right _ List.mem_cons_self
  list_type := by
    change "[]Post" = "[]" ++ "Post"
    decide
  list_key := by decide
  nodup_names := by
    change [tableNameFor "User", tableNameFor "Post"].Nodup
    decide +kernel
  sole := by
    intro other hother field hfield _
    rcases List.mem_pair.mp hother with rfl | rfl
    · exact ⟨rfl, List.mem_singleton.mp hfield⟩
    · cases hfield

theorem list_key_posts :
    ListKey (modelled "gorm" (postsSource "")) postsOwner (postsTarget []) postsField "AuthorID"
      "author_id" ∧
    ((∃ tables, parse (postsSource "") .sqlite "gorm" = .ok tables ∧
        ∃ table ∈ tables, table.name = (postsTarget []).tableName ∧
          table.Links "author_id" postsOwner.tableName) ↔
      (∀ declaration ∈ modelled "gorm" (postsSource ""), ∀ field ∈ declaration.relations,
        (targetOf? field.type).isSome) ∧
      Scalar.isScalarType (postsTarget []).name = false ∧
      postsField.options.given? "many2many" = none ∧
      IsTarget (modelled "gorm" (postsSource "")) (postsTarget []) ∧
      Naming.toSnakeCase "AuthorID" = "author_id") := by
  have hmodelled : modelled "gorm" (postsSource "") = [postsOwner, postsTarget []] := by
    decide +kernel
  have hkey : ListKey (modelled "gorm" (postsSource "")) postsOwner (postsTarget []) postsField
      "AuthorID" "author_id" := by
    rw [hmodelled]
    exact listKey_posts (by decide +kernel)
  exact ⟨hkey, list_key_iff .sqlite hkey⟩

/-- A list names a field whose options name its column, and the column refers to nothing. -/
theorem list_key_renamed :
    ListKey (modelled "gorm" (postsSource " \x60gorm:\"column:writer\"\x60")) postsOwner
        (postsTarget [("column", "writer")]) postsField "AuthorID" "writer" ∧
      ¬ ∃ tables, parse (postsSource " \x60gorm:\"column:writer\"\x60") .sqlite "gorm" = .ok tables ∧
        ∃ table ∈ tables, table.name = (postsTarget [("column", "writer")]).tableName ∧
          table.Links "writer" postsOwner.tableName := by
  have hmodelled : modelled "gorm" (postsSource " \x60gorm:\"column:writer\"\x60")
      = [postsOwner, postsTarget [("column", "writer")]] := by decide +kernel
  refine ⟨?_, ?_⟩
  · rw [hmodelled]
    exact listKey_posts (by decide +kernel)
  · rintro ⟨tables, htables, table, htable, -, ⟨linked, hlinked, hname⟩, hlinks⟩
    have hforeign := (hlinks linked hlinked hname).1
    have hread : (parse (postsSource " \x60gorm:\"column:writer\"\x60") .sqlite "gorm").toOption.all
        (fun tables => tables.all fun table => table.columns.all (!·.isForeignKey)) = true := by
      decide +kernel
    rw [htables] at hread
    have hnone := List.all_eq_true.mp (List.all_eq_true.mp hread table htable) linked hlinked
    rw [hforeign] at hnone
    cases hnone

end Models

end RelSchema
