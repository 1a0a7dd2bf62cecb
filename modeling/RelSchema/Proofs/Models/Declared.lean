import Mathlib.Data.List.TakeWhile
import RelSchema.Proofs.Keyed
import RelSchema.Proofs.Models.Header
import RelSchema.Proofs.Models.Source
import RelSchema.Proofs.Text.Cut

/-!
# What sources declare

Every table of a source has a column, every column the type and the default of its field, and only
a relation to many on both sides a table in between. The value of an option consists of characters
of the line that its field stands on, in whatever quotes and escapes they stand there, so it holds
no line break and no grave accent.
-/

namespace RelSchema

namespace Text

theorem of_mem_replaceFrom {pattern image s : List Char} {skip : Nat} {c : Char}
    (hc : c ∈ replaceFrom pattern image skip s) : c ∈ image ∨ c ∈ s := by
  fun_induction replaceFrom pattern image skip s with
  | case1 => exact Or.inr hc
  | case2 skip first rest ih => exact (ih hc).imp_right (List.mem_cons_of_mem first)
  | case3 first rest hprefix ih =>
      rcases List.mem_append.mp hc with hc | hc
      · exact Or.inl hc
      · exact (ih hc).imp_right (List.mem_cons_of_mem first)
  | case4 first rest hprefix ih =>
      rcases List.mem_cons.mp hc with rfl | hc
      · exact Or.inr List.mem_cons_self
      · exact (ih hc).imp_right (List.mem_cons_of_mem first)

end Text

namespace Models

theorem quotedText?_subset {s text rest : List Char} (h : quotedText? s = some (text, rest)) :
    text ⊆ s := by
  fun_induction quotedText? s generalizing text rest with
  | case1 => cases h
  | case2 behind =>
      cases h
      exact List.nil_subset _
  | case3 => cases h
  | case4 => cases h
  | case5 c behind hbreak ih =>
      obtain ⟨⟨found, tail⟩, hfound, hsplit⟩ := Option.map_eq_some_iff.mp h
      cases hsplit
      exact List.cons_subset_cons _ (List.cons_subset_cons _ (ih hfound))
  | case6 c behind _ _ _ ih =>
      obtain ⟨⟨found, tail⟩, hfound, hsplit⟩ := Option.map_eq_some_iff.mp h
      cases hsplit
      exact List.cons_subset_cons _ (ih hfound)

theorem subset_of_mem_tagsFrom {skip : Nat} {word s : List Char} {entry : List Char × List Char}
    (h : entry ∈ tagsFrom skip word s) : entry.2 ⊆ s := by
  fun_induction tagsFrom skip word s with
  | case1 => cases h
  | case2 word c rest skip ih => exact List.Subset.trans (ih h) (List.subset_cons_self c rest)
  | case3 word c rest _ ih => exact List.Subset.trans (ih h) (List.subset_cons_self c rest)
  | case4 word c rest _ _ text behind hquoted ih =>
      rcases List.mem_cons.mp h with rfl | h
      · exact List.Subset.trans (quotedText?_subset hquoted)
          (List.Subset.trans (List.drop_subset 1 rest) (List.subset_cons_self c rest))
      · exact List.Subset.trans (ih h) (List.subset_cons_self c rest)
  | case5 word c rest _ _ _ ih => exact List.Subset.trans (ih h) (List.subset_cons_self c rest)
  | case6 word c rest _ _ ih => exact List.Subset.trans (ih h) (List.subset_cons_self c rest)

theorem unescape_subset (s : List Char) : unescape s ⊆ s := by
  fun_induction unescape s with
  | case1 => exact List.Subset.refl _
  | case2 => exact List.Subset.refl _
  | case3 c rest hbreak ih => exact List.cons_subset_cons _ (List.cons_subset_cons _ ih)
  | case4 c rest hbreak ih =>
      exact List.Subset.trans (List.cons_subset_cons c ih) (List.subset_cons_self _ _)
  | case5 c rest _ _ ih => exact List.cons_subset_cons _ ih

theorem optionText_subset (text : List Char) (tag : String) : optionText text tag ⊆ text := by
  unfold optionText
  split
  · exact List.Subset.refl _
  · cases hfound : (tags text).reverse.lookup tag.toList with
    | none => exact List.nil_subset _
    | some found =>
        have hmem := List.mem_reverse.mp (Keyed.mem_of_lookup hfound)
        exact List.Subset.trans (unescape_subset found) (subset_of_mem_tagsFrom hmem)

theorem subset_of_mem_optionPartsFrom {place : OptionPlace} {s part : List Char}
    (hpart : part ∈ optionPartsFrom place s) : part ⊆ s := by
  induction s generalizing place part with
  | nil =>
      rw [List.mem_singleton.mp hpart]
      exact List.nil_subset _
  | cons c s ih =>
      have hrest : ∀ part ∈ optionPartsFrom (place.next c) s, part ⊆ s := fun _ => ih
      unfold optionPartsFrom at hpart
      dsimp only at hpart
      split_ifs at hpart
      · rcases List.mem_cons.mp hpart with rfl | hpart
        · exact List.nil_subset _
        · exact List.Subset.trans (hrest part hpart) (List.subset_cons_self c s)
      · cases hparts : optionPartsFrom (place.next c) s with
        | nil =>
            rw [hparts] at hpart
            rw [List.mem_singleton.mp hpart]
            exact List.cons_subset_cons c (List.nil_subset s)
        | cons first others =>
            rw [hparts] at hpart hrest
            obtain ⟨hfirst, hothers⟩ := List.forall_mem_cons.mp hrest
            -- the character goes to the first of the parts behind it
            rcases List.mem_cons.mp hpart with rfl | hpart
            · exact List.cons_subset_cons c hfirst
            · exact List.Subset.trans (hothers part hpart) (List.subset_cons_self c s)

theorem optionValue_subset (s : List Char) : optionValue s ⊆ s := by
  unfold optionValue
  split
  · next second rest =>
    split_ifs
    · intro c hc
      rcases Text.of_mem_replaceFrom hc with hquote | hc
      · exact List.mem_cons.mpr (Or.inl (List.mem_singleton.mp hquote))
      · exact List.mem_cons_of_mem _ (List.dropLast_subset _ hc)
    · exact List.Subset.refl _
  · exact List.Subset.refl _

theorem readOption_subset (part : List Char) : (readOption part).2.toList ⊆ part := by
  have hvalue : ((Text.cutAt? ':' part).getD (part, [])).2 ⊆ part := by
    cases hcut : Text.cutAt? ':' part with
    | none => exact List.nil_subset _
    | some cut =>
        rw [(Text.eq_append_of_cutAt? hcut).1]
        exact List.subset_append_of_subset_right _ (List.subset_cons_self _ _)
  rw [readOption, String.toList_ofList]
  exact List.Subset.trans (optionValue_subset _) (List.Subset.trans (Text.trim_subset _) hvalue)

theorem subset_of_mem_readTag {text : List Char} {tag : String} {entry : String × String}
    (h : entry ∈ readTag text tag) : entry.2.toList ⊆ text := by
  have hlist := Keyed.mem_of_mem_ofList h
  obtain ⟨part, hpart, rfl⟩ := List.mem_map.mp (List.mem_filter.mp hlist).1
  exact List.Subset.trans (readOption_subset part)
    (List.Subset.trans (subset_of_mem_optionPartsFrom hpart) (optionText_subset text tag))

theorem of_readTagText? {s text : List Char} (h : readTagText? s = some text) :
    ∀ c ∈ text, c ∈ s ∧ c ≠ '\x60' := by
  unfold readTagText? at h
  split at h
  · cases h
    exact List.forall_mem_nil _
  · next rest =>
    split at h
    · next found tail hcut =>
      split_ifs at h
      cases h
      obtain ⟨hrest, haccent⟩ := Text.eq_append_of_cutAt? hcut
      intro c hc
      refine ⟨?_, fun hmark => haccent (hmark ▸ hc)⟩
      rw [hrest]
      exact List.mem_cons_of_mem _ (List.mem_append_left _ hc)
    · cases h
  · cases h

/-- The values of the options of a field stand on its line, between grave accents. -/
theorem of_mem_options {tag : String} {line : List Char} {field : Field}
    (h : readField? tag line = some field) {entry : String × String}
    (hentry : entry ∈ field.options) : ∀ c ∈ entry.2.toList, c ∈ line ∧ c ≠ '\x60' := by
  unfold readField? at h
  obtain ⟨⟨name, rest⟩, hword, h⟩ := Option.bind_eq_some_iff.mp h
  obtain ⟨behind, hblanks, h⟩ := Option.bind_eq_some_iff.mp h
  dsimp only at h
  split_ifs at h
  obtain ⟨text, htext, h⟩ := Option.bind_eq_some_iff.mp h
  obtain rfl := Option.some.inj h
  have hbehind : behind ⊆ line :=
    List.Subset.trans ((reaches_of_takeWord? hword).trans (reaches_of_dropBlanks? hblanks)).subset
      (Text.trim_subset line)
  intro c hc
  obtain ⟨hmem, haccent⟩ := of_readTagText? htext c (subset_of_mem_readTag hentry hc)
  refine ⟨hbehind ?_, haccent⟩
  exact (List.dropWhile_suffix isTypeChar).subset (Text.trimLeft_subset _ hmem)

theorem type_char_of_readField? {tag : String} {line : List Char} {field : Field}
    (h : readField? tag line = some field) : ∀ c ∈ field.type.toList, isTypeChar c = true := by
  unfold readField? at h
  obtain ⟨⟨name, rest⟩, -, h⟩ := Option.bind_eq_some_iff.mp h
  obtain ⟨rest, -, h⟩ := Option.bind_eq_some_iff.mp h
  dsimp only at h
  split_ifs at h
  obtain ⟨tags, -, h⟩ := Option.bind_eq_some_iff.mp h
  obtain rfl := Option.some.inj h
  intro c hc
  rw [String.toList_ofList] at hc
  exact List.mem_takeWhile_imp hc

/-- An option with a value stands on one line, between grave accents. -/
theorem char_of_given? {tag key value : String} {line : List Char} {field : Field}
    (h : readField? tag line = some field) (hline : ∀ c ∈ line, Text.isLineBreak c = false)
    (hvalue : field.options.given? key = some value) :
    ∀ c ∈ value.toList, c ≠ '\x60' ∧ Text.isLineBreak c = false := by
  intro c hc
  have hentry := Keyed.mem_of_get? (Option.filter_eq_some_iff.mp hvalue).1
  obtain ⟨hmem, haccent⟩ := of_mem_options h hentry c hc
  exact ⟨haccent, hline c hmem⟩

/-- A column with the type and the default of a value field. -/
def Declared (dialect : Dialect) (column : Column) : Prop :=
  ∃ type, column.declaredType = some type ∧ column.type = declaredSqlType type dialect ∧
    isRelationType type = false ∧ (∀ c ∈ type.toList, isTypeChar c = true) ∧
    ∀ value ∈ column.defaultValue,
      ∀ c ∈ value.toList, c ≠ '\x60' ∧ Text.isLineBreak c = false

theorem declared_columnOf {tag : String} {source : List Char} {declaration : Declaration}
    (h : declaration ∈ declarations tag source) (dialect : Dialect) {field : Field}
    (hfield : field ∈ declaration.columns) : Declared dialect (columnOf dialect field) := by
  obtain ⟨⟨name, text⟩, -, hread⟩ := List.mem_filterMap.mp h
  dsimp only [readDeclaration?] at hread
  split_ifs at hread
  cases hread
  rw [List.partition_eq_filter_filter] at hfield
  obtain ⟨hmem, hvalue⟩ := List.mem_filter.mp hfield
  obtain ⟨line, hline, hread⟩ := List.mem_filterMap.mp hmem
  exact ⟨field.type, rfl, rfl, by simpa using hvalue, type_char_of_readField? hread,
    fun value => char_of_given? hread (Text.not_isLineBreak_of_mem_lines hline)⟩

structure DeclaredTable (dialect : Dialect) (table : Table) : Prop where
  columns_ne : table.columns ≠ []
  columns : ∀ column ∈ table.columns, Declared dialect column
  joinTable_none : ∀ relation ∈ table.relations,
    relation.kind ≠ .manyToMany → relation.joinTable = none

theorem joinTable_of_relationOf {owner : Declaration} {field : Field} {relation : Relation}
    (h : relationOf owner field = .ok relation) :
    relation.kind ≠ .manyToMany → relation.joinTable = none := by
  obtain ⟨target, -, rfl⟩ := relationOf_eq_ok_iff.mp h
  exact of_relationTo (p := fun relation => relation.kind ≠ .manyToMany → relation.joinTable = none)
    (fun _ _ _ _ hkind => absurd rfl hkind) fun _ _ _ _ _ => rfl

theorem declared_markForeign {dialect : Dialect} {columns : List Column}
    (h : columns ≠ [] ∧ ∀ column ∈ columns, Declared dialect column) (name table key : String) :
    markForeign name table key columns ≠ [] ∧
      ∀ column ∈ markForeign name table key columns, Declared dialect column := by
  refine ⟨fun hnil => h.1 (List.map_eq_nil_iff.mp hnil), fun column hcolumn => ?_⟩
  obtain ⟨original, horiginal, rfl⟩ := List.mem_map.mp hcolumn
  split_ifs
  · exact h.2 original horiginal
  · exact h.2 original horiginal

theorem declaredTable_of_tableOf {tag : String} {source : List Char} {dialect : Dialect}
    {declaration : Declaration} (hdeclaration : declaration ∈ declarations tag source)
    (hne : declaration.columns ≠ []) {table : Table} (h : tableOf dialect declaration = .ok table) :
    DeclaredTable dialect table := by
  obtain ⟨relations, hrelations, rfl⟩ := tableOf_eq_ok_iff.mp h
  have hcolumns : relations.foldl markLocal (declaration.columns.map (columnOf dialect)) ≠ [] ∧
      ∀ column ∈ relations.foldl markLocal (declaration.columns.map (columnOf dialect)),
        Declared dialect column := by
    -- marks change references alone, so both facts are those of the columns as they are read
    refine of_foldl_markLocal (p := fun columns => columns ≠ [] ∧
      ∀ column ∈ columns, Declared dialect column) ?_ ⟨?_, ?_⟩
    · exact fun relation _ columns hcolumns => declared_markForeign hcolumns _ _ _
    · simpa using hne
    · intro column hcolumn
      obtain ⟨field, hfield, rfl⟩ := List.mem_map.mp hcolumn
      exact declared_columnOf hdeclaration dialect hfield
  refine ⟨hcolumns.1, hcolumns.2, fun relation hrelation => ?_⟩
  obtain ⟨field, -, hread⟩ := exists_of_mem_mapM hrelations hrelation
  exact joinTable_of_relationOf hread

theorem declaredTable_of_parse {source tag : String} {dialect : Dialect} {tables : List Table}
    (h : parse source dialect tag = .ok tables) :
    ∀ table ∈ tables, DeclaredTable dialect table := by
  obtain ⟨found, rfl, hfound⟩ := exists_of_parse h
  apply forall_mem_markTargets
  · intro owner _ relation _ table htable
    obtain ⟨hne, hcolumns⟩ := declared_markForeign ⟨htable.columns_ne, htable.columns⟩
      relation.foreignKey owner.name relation.referenceKey
    exact ⟨hne, hcolumns, htable.joinTable_none⟩
  · intro table htable
    obtain ⟨declaration, hdeclaration, hne, hread⟩ := hfound table htable
    exact declaredTable_of_tableOf hdeclaration hne hread

end Models

end RelSchema
