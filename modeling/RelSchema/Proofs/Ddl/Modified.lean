import RelSchema.Proofs.Ddl.Default
import RelSchema.Proofs.Ddl.Listed

/-!
# Columns and what follows their types

The tokens behind the type of a column are its modifiers, from which its default and its reference
are read. A definition may go on with a further modifier, which starts in a keyword: the name and the
type of the column stay what they are, and the tokens of the further modifier follow the others.
-/

namespace RelSchema.Ddl

open Sql (Token Balanced SelfContained isWordPart isQuote quotes isBreak_gap)
open Sql.Pending (wordToken)
open Text (openQuote)

section ReadColumn

variable (definition : List Char) (name type : Token) (rest : List Token)

theorem name_readColumn : (readColumn definition name type rest).name = columnName name := by
  unfold readColumn
  dsimp only
  split <;> rfl

theorem type_readColumn :
    (readColumn definition name type rest).type
      = .ofList (Sql.slice definition type.start (typeEnd type.stop rest).1) := by
  unfold readColumn
  dsimp only
  split <;> rfl

theorem defaultValue_readColumn :
    (readColumn definition name type rest).defaultValue
      = default? definition (typeEnd type.stop rest).2 := by
  unfold readColumn
  dsimp only
  split <;> rfl

theorem foreignTable_readColumn :
    (readColumn definition name type rest).foreignTable
      = (reference? (typeEnd type.stop rest).2).map (·.table) := by
  unfold readColumn
  dsimp only
  split <;> next h => rw [h]; rfl

end ReadColumn

/-- Whether a type ends in front of the tokens: the first one opens no parenthesis and is no word that
types go on with. -/
def EndsTypes (tokens : List Token) : Prop :=
  ∀ token ∈ tokens.head?, token.kind ≠ .opening ∧
    ∀ suffix ∈ typeSuffixes, suffix.head? ≠ some token.upper

instance (tokens : List Token) : Decidable (EndsTypes tokens) :=
  inferInstanceAs (Decidable (∀ token ∈ tokens.head?, _))

theorem EndsTypes.typeEnd_eq {tokens : List Token} (h : EndsTypes tokens) (stop : Nat) :
    typeEnd stop tokens = (stop, tokens) := by
  cases tokens with
  | nil => exact typeEnd_of_end rfl (Or.inr rfl) stop
  | cons token tokens =>
      obtain ⟨hopen, hsuffix⟩ := h token rfl
      exact typeEnd_of_end (Sql.group?_other hopen tokens)
        (Or.inl (suffixLength_eq_zero hsuffix tokens)) stop

theorem startsWith_append_of_startsWith {words : List String} {a : List Token}
    (h : startsWith words a = true) (b : List Token) :
    startsWith words (a ++ b) = true ∧ words.length ≤ a.length := by
  induction words generalizing a with
  | nil => exact ⟨by rw [startsWith], Nat.zero_le _⟩
  | cons word words ih =>
      cases a with
      | nil => cases h
      | cons token a =>
          rw [startsWith, Bool.and_eq_true] at h
          obtain ⟨hrest, hlength⟩ := ih h.2
          refine ⟨?_, Nat.succ_le_succ hlength⟩
          rw [List.cons_append, startsWith, h.1, hrest, Bool.and_self]

/-- A type ends where it does whatever follows what ends it. -/
theorem typeEnd_append {stop : Nat} {a b : List Token} (h : ∀ last,
      typeEnd last ((typeEnd stop a).2 ++ b) = (last, (typeEnd stop a).2 ++ b)) :
    typeEnd stop (a ++ b) = ((typeEnd stop a).1, (typeEnd stop a).2 ++ b) := by
  induction stop, a using typeEnd.induct with
  | case1 stop a group hgroup ih =>
      rw [typeEnd_of_group hgroup] at h ⊢
      rw [typeEnd_of_group (Sql.group?_append_of_some hgroup b)]
      exact ih h
  | case2 stop a hgroup hnone =>
      rw [typeEnd_of_end hgroup hnone] at h ⊢
      exact h stop
  | case3 stop a hgroup hsome last ih =>
      obtain ⟨words, hwords, hstarts, hlength⟩ :=
        exists_of_suffixLength_ne_zero (not_or.mp hsome).1
      obtain ⟨hstartsMore, hcount⟩ := startsWith_append_of_startsWith hstarts b
      have hne : words ≠ [] := by
        rintro rfl
        exact absurd hwords (by decide)
      have hlengthMore := suffixLength_of_startsWith hwords hstartsMore
      have hsomeMore : ¬(suffixLength (a ++ b) = 0 ∨ a ++ b = []) := by
        rintro (hzero | hnil)
        · exact hsome (Or.inl (by rw [hlength, ← hlengthMore, hzero]))
        · exact hsome (Or.inr (List.append_eq_nil_iff.mp hnil).1)
      rw [typeEnd_of_suffix hgroup hsome] at h ⊢
      rw [typeEnd_of_suffix (group?_of_startsWith hne hstartsMore) hsomeMore, hlengthMore, ← hlength,
        List.take_append_of_le_length (hlength ▸ hcount),
        List.drop_append_of_le_length (hlength ▸ hcount)]
      exact ih h

theorem typeEnd_le_length {dialect : Dialect} {definition : List Char} {name type : Token}
    {rest : List Token} (hclosed : openQuote quotes none definition = none)
    (htokens : tokens dialect definition = name :: type :: rest) :
    (typeEnd type.stop rest).1 ≤ definition.length := by
  obtain ⟨nameRaw, others, hraw, rfl, hothers⟩ := List.map_eq_cons_iff.mp htokens
  obtain ⟨typeRaw, restRaw, rfl, rfl, rfl⟩ := List.map_eq_cons_iff.mp hothers
  obtain ⟨front, back, rfl, hstop, -, hback⟩ :=
    @Sql.exists_append_of_tokensFrom 0 _ [nameRaw] restRaw typeRaw hclosed hraw
  have hrest : restRaw.map (readToken dialect) = tokensAt dialect typeRaw.stop back := by
    rw [tokensAt, hback]
  obtain ⟨stop, modifiers, htypeEnd⟩ :
      ∃ stop modifiers, typeEnd typeRaw.stop (tokensAt dialect typeRaw.stop back)
        = (stop, modifiers) := ⟨_, _, rfl⟩
  obtain ⟨tail, after, rfl, -, htail, -⟩ := exists_typeTail htypeEnd
  rw [readToken_stop, hrest, htypeEnd, htail, hstop]
  simp only [List.length_append]
  omega

/-- The tokens behind the type of a column. -/
def modifierTokens (dialect : Dialect) (definition : List Char) : List Token :=
  match tokens dialect definition with
  | _ :: type :: rest => (typeEnd type.stop rest).2
  | _ => []

/-- Whether the text is the definition of the column and may go on with a modifier. -/
structure ColumnStart (dialect : Dialect) (column : Column) (start : List Char) : Prop where
  contained : SelfContained ',' start
  reads : readDefinition dialect start = .column column
  ends : EndsTypes (modifierTokens dialect start)

instance (dialect : Dialect) (column : Column) (start : List Char) :
    Decidable (ColumnStart dialect column start) :=
  decidable_of_iff (SelfContained ',' start ∧ readDefinition dialect start = .column column ∧
    EndsTypes (modifierTokens dialect start))
    ⟨fun h => ⟨h.1, h.2.1, h.2.2⟩, fun h => ⟨h.contained, h.reads, h.ends⟩⟩

/-- Whether a text is a keyword, with which no type goes on, and something behind it. -/
structure Modifier (keyword rest : List Char) : Prop where
  ne_nil : keyword ≠ []
  code : ∀ c ∈ keyword, isWordPart c = true
  head : ∀ c ∈ rest.head?, isWordPart c = false
  ends_type : ∀ suffix ∈ typeSuffixes, suffix.head? ≠ some (Text.upper (.ofList keyword))

theorem Modifier.of_upper {word : String} {keyword rest : List Char}
    (hupper : Text.upper (.ofList keyword) = word) (hne : word ≠ "")
    (hword : ∀ c ∈ word.toList, ¬ Text.IsReserved c)
    (hsuffix : ∀ suffix ∈ typeSuffixes, suffix.head? ≠ some word)
    (hrest : ∀ c ∈ rest.head?, isWordPart c = false) : Modifier keyword rest := by
  have hkeyword : keyword ≠ [] := by
    rintro rfl
    exact hne hupper.symm
  have hsingle := isSingleWord_of_all hkeyword (Text.not_isReserved_of_upper hupper hword)
  exact ⟨hkeyword, hsingle.isWordPart, hrest, by rwa [hupper]⟩

theorem Modifier.tokensAt_eq {keyword rest : List Char} (h : Modifier keyword rest) (dialect : Dialect)
    (position : Nat) :
    tokensAt dialect position (keyword ++ rest)
      = wordToken position keyword.reverse (position + keyword.length)
          :: tokensAt dialect (position + keyword.length) rest :=
  tokensAt_word dialect position h.ne_nil h.code h.head

theorem Modifier.endsTypes {keyword rest : List Char} (h : Modifier keyword rest) (dialect : Dialect)
    (position : Nat) : EndsTypes (tokensAt dialect position (keyword ++ rest)) := by
  intro token htoken
  rw [h.tokensAt_eq] at htoken
  cases htoken
  refine ⟨Sql.TokenKind.noConfusion, fun suffix hsuffix => ?_⟩
  rw [Token.upper, value_wordToken]
  exact h.ends_type suffix hsuffix

theorem slice_append_left {a : List Char} {start stop : Nat} (h : stop ≤ a.length) (b : List Char) :
    Sql.slice (a ++ b) start stop = Sql.slice a start stop := by
  rw [Sql.slice, Sql.slice, List.drop_append, List.take_append_of_le_length]
  rw [List.length_drop]
  omega

/-- The definition of a column that goes on with a modifier. -/
theorem ColumnStart.exists_readDefinition {dialect : Dialect} {column : Column}
    {start gap keyword rest : List Char} (h : ColumnStart dialect column start)
    (hgap : ∀ c ∈ gap, Text.isSeparator c = true) (hne : gap ≠ []) (hrest : Modifier keyword rest) :
    ∃ found, readDefinition dialect (start ++ (gap ++ (keyword ++ rest))) = .column found ∧
      found.name = column.name ∧ found.type = column.type ∧
      found.defaultValue = default? (start ++ (gap ++ (keyword ++ rest)))
        (modifierTokens dialect start
          ++ tokensAt dialect (start ++ gap).length (keyword ++ rest)) ∧
      found.foreignTable = (reference? (modifierTokens dialect start
        ++ tokensAt dialect (start ++ gap).length (keyword ++ rest))).map (·.table) := by
  have hclosed := h.contained.balanced.openQuote_eq
  obtain ⟨name, type, others, htokens, hstarts, hcolumn⟩ :=
    readDefinition_eq_column_iff.mp h.reads
  have hends := h.ends
  rw [modifierTokens, htokens] at hends ⊢
  dsimp only at hends ⊢
  set more := tokensAt dialect (start ++ gap).length (keyword ++ rest) with hmore
  have hbreak : ∀ c ∈ (gap ++ (keyword ++ rest)).head?, isQuote c = false ∧ isWordPart c = false :=
    isBreak_gap hgap (absurd · hne)
  have hall : tokens dialect (start ++ (gap ++ (keyword ++ rest))) = name :: type :: (others ++ more)
      := by
    rw [tokens_eq_tokensAt, tokensAt_append dialect hclosed hbreak, tokensAt_gap dialect _ hgap,
      Nat.zero_add, ← List.length_append, ← tokens_eq_tokensAt, htokens]
    rfl
  have hboth : EndsTypes ((typeEnd type.stop others).2 ++ more) := by
    cases hmodifiers : (typeEnd type.stop others).2 with
    | nil => exact hrest.endsTypes dialect _
    | cons first modifiers =>
        rw [hmodifiers] at hends
        exact hends
  have hmodifiers := typeEnd_append hboth.typeEnd_eq
  refine ⟨_, readDefinition_eq_column_iff.mpr ⟨name, type, _, hall, hstarts, rfl⟩, ?_, ?_, ?_, ?_⟩
  · rw [← hcolumn, name_readColumn, name_readColumn]
  · rw [← hcolumn, type_readColumn, type_readColumn, hmodifiers,
      slice_append_left (typeEnd_le_length hclosed htokens)]
  · rw [defaultValue_readColumn, hmodifiers]
  · rw [foreignTable_readColumn, hmodifiers]

end RelSchema.Ddl
