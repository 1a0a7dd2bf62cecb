import RelSchema.Proofs.Models.Source
import RelSchema.Proofs.Text.Cut

/-!
# Targets of relation fields

The type of a relation field names its target by its last word. A type without words names none, and
a source with such a field cannot be read; every other source can.
-/

namespace RelSchema.Models

theorem targetOf?_isSome_iff {type : String} :
    (targetOf? type).isSome ↔ ∃ c ∈ type.toList, Text.isWordChar c = true := by
  have hwords : (∃ c ∈ type.toList, Text.isWordChar c = true) ↔
      ∃ part ∈ Text.splitWhere (!Text.isWordChar ·) type.toList, part ≠ [] := by
    rw [Text.exists_part_ne_nil_iff]
    simp
  rw [hwords, targetOf?, Option.isSome_map, List.getLast?_isSome]
  simp [List.filter_eq_nil_iff]

theorem exists_relationOf_iff {owner : Declaration} {field : Field} :
    (∃ relation, relationOf owner field = .ok relation) ↔
      ∃ c ∈ field.type.toList, Text.isWordChar c = true := by
  rw [← targetOf?_isSome_iff, Option.isSome_iff_exists]
  constructor
  · rintro ⟨relation, h⟩
    obtain ⟨target, htarget, -⟩ := relationOf_eq_ok_iff.mp h
    exact ⟨target, htarget⟩
  · rintro ⟨target, htarget⟩
    exact ⟨_, relationOf_eq_ok_iff.mpr ⟨target, htarget, rfl⟩⟩

/-- A relation goes through a table in between exactly if its options name one. -/
theorem consistent_of_relationOf {owner : Declaration} {field : Field} {relation : Relation}
    (h : relationOf owner field = .ok relation) : relation.Consistent := by
  obtain ⟨target, -, rfl⟩ := relationOf_eq_ok_iff.mp h
  apply of_relationTo
  · intro joinTable foreignKey referenceKey hjoin
    obtain ⟨-, hne⟩ := Option.filter_eq_some_iff.mp hjoin
    exact (isGiven_iff.mpr ⟨joinTable, rfl, by simpa using hne⟩).symm
  · intro kind foreignKey referenceKey hkind
    exact beq_eq_false_iff_ne.mpr hkind

theorem relations_of_parse {source tag : String} {dialect : Dialect} {tables : List Table}
    (h : parse source dialect tag = .ok tables) :
    ∀ table ∈ tables, ∀ relation ∈ table.relations, relation.Consistent := by
  obtain ⟨found, rfl, hfound⟩ := exists_of_parse h
  apply forall_mem_markTargets
  · exact fun _ _ _ _ _ htable => htable
  · intro table htable
    obtain ⟨declaration, -, -, hread⟩ := hfound table htable
    obtain ⟨relations, hrelations, rfl⟩ := tableOf_eq_ok_iff.mp hread
    intro relation hrelation
    obtain ⟨field, -, hfield⟩ := exists_of_mem_mapM hrelations hrelation
    exact consistent_of_relationOf hfield

theorem faults_of_parse {source tag : String} {dialect : Dialect} {tables : List Table}
    (h : parse source dialect tag = .ok tables) : ∀ table ∈ tables, table.faults = [] :=
  fun table htable => Table.faults_eq_nil_iff.mpr
    ⟨consistent_of_parse h table htable, relations_of_parse h table htable⟩

theorem exists_tableOf_iff {dialect : Dialect} {declaration : Declaration} :
    (∃ table, tableOf dialect declaration = .ok table) ↔
      ∀ field ∈ declaration.relations, ∃ c ∈ field.type.toList, Text.isWordChar c = true := by
  have hrelations : (∃ relations, declaration.relations.mapM (relationOf declaration)
      = .ok relations) ↔
        ∀ field ∈ declaration.relations, ∃ c ∈ field.type.toList, Text.isWordChar c = true := by
    rw [exists_mapM_eq_ok_iff]
    exact forall₂_congr fun _ _ => exists_relationOf_iff
  rw [← hrelations]
  constructor
  · rintro ⟨table, h⟩
    obtain ⟨relations, hread, -⟩ := tableOf_eq_ok_iff.mp h
    exact ⟨relations, hread⟩
  · rintro ⟨relations, hread⟩
    exact ⟨_, tableOf_eq_ok_iff.mpr ⟨relations, hread, rfl⟩⟩

/-- A source is read exactly if each relation field of a structure with columns names its target. -/
theorem exists_parse_iff (source : String) (dialect : Dialect) (tag : String) :
    (∃ tables, parse source dialect tag = .ok tables) ↔
      ∀ declaration ∈ declarations tag (stripComments source.toList), declaration.columns ≠ [] →
        ∀ field ∈ declaration.relations, ∃ c ∈ field.type.toList, Text.isWordChar c = true := by
  set found := (declarations tag (stripComments source.toList)).filter (!·.columns.isEmpty)
    with hfound
  have hparse : (∃ tables, parse source dialect tag = .ok tables) ↔
      ∃ tables, found.mapM (tableOf dialect) = .ok tables := by
    constructor
    · rintro ⟨tables, h⟩
      obtain ⟨read, hread, -⟩ := bind_eq_ok_iff.mp h
      exact ⟨read, hread⟩
    · rintro ⟨read, hread⟩
      exact ⟨_, bind_eq_ok_iff.mpr ⟨read, hread, rfl⟩⟩
  rw [hparse, exists_mapM_eq_ok_iff]
  simp only [exists_tableOf_iff, hfound, List.mem_filter, Bool.not_eq_true', and_imp,
    List.isEmpty_eq_false_iff, ne_eq]

end RelSchema.Models
