import RelSchema.Proofs.Ddl.Default

/-!
# Defaults that stay in their clause

A text is confined if a scan that enters it in code leaves it in code, without a comment, and finds
one definition and one statement in it. What is written for a default is confined if it is a word or
stands in quotes that are put around it. A default that looks like a call, a literal or an
expression in parentheses is written as it is, and confined only if it was so before: a look at its
first and its last character does not tell.
-/

namespace RelSchema.Ddl

open Sql (SelfContained Balanced Unmarked Trimmed)

/-- Whether a text leaves nothing open and has no comment, and is one definition and one
statement. -/
structure Confined (text : List Char) : Prop where
  balanced : Balanced text
  unmarked : Unmarked text
  definition : (Sql.definitions text).length = 1
  statement : (Sql.statements text).length = 1

instance (text : List Char) : Decidable (Confined text) :=
  decidable_of_iff (Balanced text ∧ Unmarked text ∧ (Sql.definitions text).length = 1 ∧
      (Sql.statements text).length = 1)
    ⟨fun ⟨hbalanced, hunmarked, hdefinition, hstatement⟩ =>
      ⟨hbalanced, hunmarked, hdefinition, hstatement⟩,
      fun h => ⟨h.balanced, h.unmarked, h.definition, h.statement⟩⟩

/-- A text that is cut at no separator is confined, with line breaks behind it or without. -/
theorem Confined.of_selfContained {text gap : List Char} (hcomma : SelfContained ',' text)
    (hsemicolon : SelfContained ';' text) (htrimmed : Trimmed text) (hgap : gap ⊆ ['\n']) :
    Confined (text ++ gap) := by
  have hbreak : ∀ c ∈ gap, c = '\n' := fun c hc => List.mem_singleton.mp (hgap hc)
  have hblank : ∀ c ∈ gap, Text.isBlank c = true := by
    intro c hc
    rw [hbreak c hc]
    decide
  have hnone : ∀ c ∈ ([] : List Char), Text.isBlank c = true := List.forall_mem_nil _
  have hbehind : SelfContained ',' gap := .of_blank (by decide) hblank
  have hall : SelfContained ',' (text ++ gap) := by
    refine hcomma.append hbehind fun c _ d hd => ?_
    rw [hbreak d (List.mem_of_mem_head? hd)]
    exact Sql.isMark_of_right (by decide) (by decide)
  have hdefinition := Sql.splitTopLevel_eq_singleton Sql.isSeparating_comma hnone hblank
    hcomma.balanced hcomma.whole htrimmed
  have hstatement := Sql.splitTopLevel_eq_singleton Sql.isSeparating_semicolon hnone hblank
    hsemicolon.balanced hsemicolon.whole htrimmed
  rw [List.nil_append] at hdefinition hstatement
  exact ⟨hall.balanced, hall.unmarked, by rw [Sql.definitions, hdefinition]; rfl,
    by rw [Sql.statements, hstatement]; rfl⟩

theorem Confined.of_isSingleWord {text gap : List Char} (h : IsSingleWord text)
    (hgap : gap ⊆ ['\n']) : Confined (text ++ gap) := by
  have hsemicolon : SelfContained ';' text :=
    .of_word h.isWordPart (h.ne_of_mem (by decide)) h.selfContained.unmarked
  exact .of_selfContained h.selfContained hsemicolon h.trimmed hgap

theorem Confined.enclosed (s : List Char) : Confined (Naming.enclosed '\'' s) := by
  have htrimmed : Trimmed (Naming.enclosed '\'' s) := by
    refine ⟨by simp [Naming.enclosed], ?_, ?_⟩
    · intro c hc
      cases hc
      decide
    · intro c hc
      rw [Naming.enclosed, List.getLast?_append] at hc
      cases hc
      decide
  have hconfined := Confined.of_selfContained (.enclosed (by decide) s)
    (.enclosed (by decide) s) htrimmed (List.nil_subset ['\n'])
  rwa [List.append_nil] at hconfined

/-- Whether a default looks like a call, possibly with a line break behind it, like a literal or
like an expression in parentheses. -/
def LooksComposed (value : String) : Prop :=
  let s := value.toList
  isCall s = true ∨ (s.getLast? = some '\n' ∧ isCall s.dropLast = true) ∨
    s.head? = some '\'' ∨ (s.head? = some '(' ∧ s.getLast? = some ')')

instance (value : String) : Decidable (LooksComposed value) :=
  inferInstanceAs (Decidable (_ ∨ _))

theorem isBare_of_isCall {s : List Char} (h : isCall s = true) : isBare s = true := by
  rw [isBare, h, Bool.or_true]

/-- A bare default is one word, possibly with a line break behind it, or it looks composed. -/
theorem confined_of_isBare {value : String} (hplain : ¬LooksComposed value)
    (h : isBare value.toList = true ∨
      value.toList.getLast? = some '\n' ∧ isBare value.toList.dropLast = true) :
    Confined value.toList := by
  rcases h with hbare | ⟨hbreak, hbare⟩
  · rcases isSingleWord_or_isCall hbare with hword | hcall
    · have hconfined := Confined.of_isSingleWord hword (List.nil_subset ['\n'])
      rwa [List.append_nil] at hconfined
    · exact absurd (Or.inl hcall) hplain
  · rcases isSingleWord_or_isCall hbare with hword | hcall
    · have hconfined := Confined.of_isSingleWord hword (List.Subset.refl ['\n'])
      rwa [List.dropLast_append_getLast? _ hbreak] at hconfined
    · exact absurd (Or.inr (Or.inl ⟨hbreak, hcall⟩)) hplain

/-- A default is confined as it is written, or it looks composed and is written as it is. -/
theorem renderDefault_eq_self_or_confined (value : String) :
    LooksComposed value ∧ renderDefault value = value ∨
      ¬LooksComposed value ∧ Confined (renderDefault value).toList := by
  rw [renderDefault]
  by_cases hcomposed : LooksComposed value
  · refine Or.inl ⟨hcomposed, ?_⟩
    split_ifs with hbare hliteral
    · rfl
    · rfl
    · exfalso
      rw [Bool.or_eq_true, not_or] at hbare
      rcases hcomposed with hcall | ⟨hbreak, hcall⟩ | hshape
      · exact hbare.1 (isBare_of_isCall hcall)
      · exact hbare.2 (by rw [hbreak, isBare_of_isCall hcall]; rfl)
      · exact hliteral (by simpa using hshape)
  · refine Or.inr ⟨hcomposed, ?_⟩
    split_ifs with hbare hliteral
    · refine confined_of_isBare hcomposed ?_
      simpa using hbare
    · refine absurd (Or.inr (Or.inr ?_)) hcomposed
      simpa using hliteral
    · rw [String.toList_ofList]
      exact .enclosed _

/-- What is written for a default is confined unless the default looks composed without being
confined. -/
theorem confined_renderDefault_iff (value : String) :
    Confined (renderDefault value).toList ↔ (LooksComposed value → Confined value.toList) := by
  rcases renderDefault_eq_self_or_confined value with ⟨hcomposed, hsame⟩ | ⟨hplain, hconfined⟩
  · rw [hsame]
    exact ⟨fun h _ => h, fun h => h hcomposed⟩
  · exact iff_of_true hconfined fun hcomposed => absurd hcomposed hplain

/-- The quote that the default starts with is never closed. -/
theorem not_confined_renderDefault : ¬ Confined (renderDefault "'x").toList := by
  decide

end RelSchema.Ddl
