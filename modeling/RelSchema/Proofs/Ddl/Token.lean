import RelSchema.Ddl.Dialect
import RelSchema.Proofs.Sql.Group

/-!
# Tokens of a definition in a dialect

A dialect only turns some quoted names into strings. Words, parentheses and names in the quotes of
the dialect itself are what they are in every text, so the pieces of a definition are read as in any
other text.
-/

namespace RelSchema.Ddl

open Sql (Token Group tokensFrom isWordPart isQuote Balanced)
open Sql.Pending (wordToken runToken parenToken)

section ReadToken

variable (dialect : Dialect)

@[simp]
theorem readToken_start (token : Token) : (readToken dialect token).start = token.start := by
  rw [readToken]
  split <;> rfl

@[simp]
theorem readToken_stop (token : Token) : (readToken dialect token).stop = token.stop := by
  rw [readToken]
  split <;> rfl

@[simp]
theorem readToken_value (token : Token) : (readToken dialect token).value = token.value := by
  rw [readToken]
  split <;> rfl

theorem readToken_of_ne {token : Token} (hkind : token.kind ≠ .quotedName) :
    readToken dialect token = token := by
  rw [readToken, if_neg]
  simp [hkind]

@[simp]
theorem readToken_wordToken (start : Nat) (letters : List Char) (stop : Nat) :
    readToken dialect (wordToken start letters stop) = wordToken start letters stop :=
  readToken_of_ne dialect Sql.TokenKind.noConfusion

@[simp]
theorem readToken_parenToken_opening (c : Char) (start : Nat) :
    readToken dialect (parenToken .opening c start) = parenToken .opening c start :=
  readToken_of_ne dialect Sql.TokenKind.noConfusion

@[simp]
theorem readToken_parenToken_closing (c : Char) (start : Nat) :
    readToken dialect (parenToken .closing c start) = parenToken .closing c start :=
  readToken_of_ne dialect Sql.TokenKind.noConfusion

/-- A string literal is a string in every dialect. -/
@[simp]
theorem readToken_literal (start : Nat) (content : List Char) (stop : Nat) :
    readToken dialect (runToken '\'' start content stop) = runToken '\'' start content stop :=
  readToken_of_ne dialect Sql.TokenKind.noConfusion

/-- A name in the quotes of the dialect is a name. -/
@[simp]
theorem readToken_quoteChar (start : Nat) (content : List Char) (stop : Nat) :
    readToken dialect (runToken dialect.quoteChar start content stop)
      = runToken dialect.quoteChar start content stop := by
  cases dialect <;> rfl

theorem kind_readToken_iff {token : Token} {kind : Sql.TokenKind} (hname : kind ≠ .quotedName)
    (hstring : kind ≠ .string) : (readToken dialect token).kind = kind ↔ token.kind = kind := by
  rw [readToken]
  split_ifs with h
  · simp only [Bool.and_eq_true, beq_iff_eq] at h
    simp [h.1.2, hname.symm, hstring.symm]
  · exact Iff.rfl

end ReadToken

theorem isQuote_quoteChar (dialect : Dialect) : isQuote dialect.quoteChar = true := by
  cases dialect <;> decide

theorem kind_runToken_quoteChar (dialect : Dialect) (start : Nat) (content : List Char)
    (stop : Nat) : (runToken dialect.quoteChar start content stop).kind = .quotedName := by
  cases dialect <;> rfl

/-- The tokens of a text whose first character has the given position. -/
def tokensAt (dialect : Dialect) (position : Nat) (text : List Char) : List Token :=
  (tokensFrom position .nothing text).map (readToken dialect)

theorem tokens_eq_tokensAt (dialect : Dialect) (text : List Char) :
    tokens dialect text = tokensAt dialect 0 text := rfl

section Pieces

variable (dialect : Dialect) (position : Nat)

@[simp]
theorem tokensAt_nil : tokensAt dialect position [] = [] := rfl

theorem tokensAt_gap {gap : List Char} (hgap : ∀ c ∈ gap, Text.isSeparator c = true)
    (rest : List Char) :
    tokensAt dialect position (gap ++ rest) = tokensAt dialect (position + gap.length) rest := by
  rw [tokensAt, Sql.tokensFrom_gap hgap]
  rfl

theorem tokensAt_space (rest : List Char) :
    tokensAt dialect position (' ' :: rest) = tokensAt dialect (position + 1) rest :=
  have hspace : ∀ c ∈ [' '], Text.isSeparator c = true := by decide
  tokensAt_gap dialect position hspace rest

theorem tokensAt_word {w rest : List Char} (hne : w ≠ []) (hw : ∀ c ∈ w, isWordPart c = true)
    (hend : ∀ c ∈ rest.head?, isWordPart c = false) :
    tokensAt dialect position (w ++ rest)
      = wordToken position w.reverse (position + w.length)
          :: tokensAt dialect (position + w.length) rest := by
  rw [tokensAt, Sql.tokensFrom_word hne hw hend, List.map_cons, readToken_wordToken]
  rfl

theorem tokensAt_opening (rest : List Char) :
    tokensAt dialect position ('(' :: rest)
      = parenToken .opening '(' position :: tokensAt dialect (position + 1) rest := by
  rw [tokensAt, Sql.tokensFrom_opening, List.map_cons, readToken_parenToken_opening]
  rfl

theorem tokensAt_closing (rest : List Char) :
    tokensAt dialect position (')' :: rest)
      = parenToken .closing ')' position :: tokensAt dialect (position + 1) rest := by
  rw [tokensAt, Sql.tokensFrom_closing, List.map_cons, readToken_parenToken_closing]
  rfl

theorem tokensAt_name (s : List Char) {rest : List Char}
    (hend : ∀ c ∈ rest.head?, c ≠ dialect.quoteChar) :
    tokensAt dialect position (Naming.enclosed dialect.quoteChar s ++ rest)
      = runToken dialect.quoteChar position s.reverse
            (position + (Naming.enclosed dialect.quoteChar s).length)
          :: tokensAt dialect (position + (Naming.enclosed dialect.quoteChar s).length) rest := by
  rw [tokensAt, Sql.tokensFrom_enclosed (isQuote_quoteChar dialect) s hend, List.map_cons,
    readToken_quoteChar]
  rfl

theorem tokensAt_literal (s : List Char) {rest : List Char} (hend : ∀ c ∈ rest.head?, c ≠ '\'') :
    tokensAt dialect position (Naming.enclosed '\'' s ++ rest)
      = runToken '\'' position s.reverse (position + (Naming.enclosed '\'' s).length)
          :: tokensAt dialect (position + (Naming.enclosed '\'' s).length) rest := by
  rw [tokensAt, Sql.tokensFrom_enclosed (by decide) s hend, List.map_cons, readToken_literal]
  rfl

end Pieces

theorem groupFrom?_map_readToken (dialect : Dialect) (depth : Nat) (tokens : List Token) :
    Sql.groupFrom? depth (tokens.map (readToken dialect))
      = (Sql.groupFrom? depth tokens).map (Group.map (readToken dialect)) := by
  apply Sql.groupFrom?_map
  · exact fun token => kind_readToken_iff dialect (by decide) (by decide)
  · exact fun token => kind_readToken_iff dialect (by decide) (by decide)

/-- The group in front of a text is a balanced text in parentheses. -/
theorem group?_tokensAt (dialect : Dialect) (position : Nat) {gap inner : List Char}
    (hgap : ∀ c ∈ gap, Text.isSeparator c = true) (hinner : Balanced inner) (rest : List Char) :
    ∃ group, Sql.group? (tokensAt dialect position (gap ++ ('(' :: inner ++ ')' :: rest)))
        = some group ∧
      group.close.stop = position + (gap ++ ('(' :: inner ++ [')'])).length ∧
      group.rest = tokensAt dialect group.close.stop rest := by
  have hgroup := Sql.groupFrom?_tokensFrom 0 (position + gap.length + 1) (inner ++ ')' :: rest)
  rw [Sql.Brackets.closeFrom_closing hinner] at hgroup
  obtain ⟨a, b, found, hsplit, hlength, hgroup⟩ := hgroup
  have ha : a.length = inner.length := by omega
  obtain ⟨rfl, hb⟩ := List.append_inj hsplit.symm ha
  cases hb
  rw [tokensAt_gap dialect position hgap, List.cons_append, tokensAt_opening,
    Sql.group?_opening rfl, tokensAt, groupFrom?_map_readToken, hgroup]
  refine ⟨_, rfl, ?_, by rw [Group.map, readToken_stop]; rfl⟩
  simp only [Group.map, readToken_stop, parenToken, List.length_append, List.length_cons,
    List.length_nil]
  omega

theorem exists_of_group?_tokensAt {dialect : Dialect} {position : Nat} {s : List Char}
    {group : Group} (h : Sql.group? (tokensAt dialect position s) = some group) :
    ∃ gap inner rest, s = gap ++ ('(' :: inner ++ ')' :: rest) ∧
      (∀ c ∈ gap, Text.isSeparator c = true) ∧ Balanced inner ∧
      group.close.stop = position + (gap ++ ('(' :: inner ++ [')'])).length ∧
      group.rest = tokensAt dialect group.close.stop rest := by
  cases htokens : tokensFrom position .nothing s with
  | nil =>
      rw [tokensAt, htokens] at h
      cases h
  | cons token tokens =>
      obtain ⟨gap, lexeme, rest, rfl, hgap, hlexeme, hstart, hstop, hrest⟩ :=
        Sql.exists_lexeme htokens
      have hkind : token.kind = .opening := by
        by_contra hne
        rw [tokensAt, htokens, List.map_cons, Sql.group?_other] at h
        · cases h
        · rwa [ne_eq, kind_readToken_iff dialect (by decide) (by decide)]
      obtain rfl : lexeme = ['('] := by
        rcases hlexeme.after?_cases with ⟨_, rfl⟩ | ⟨htoken, _⟩ | ⟨⟨hopen, _⟩, _⟩
        · rfl
        · rw [htoken] at hkind
          cases hkind
        · exact absurd hkind hopen
      have hgroup := Sql.groupFrom?_tokensFrom 0 token.stop rest
      rw [tokensAt, htokens, List.map_cons, Sql.group?_opening
        ((kind_readToken_iff dialect (by decide) (by decide)).mpr hkind),
        groupFrom?_map_readToken, ← hrest] at h
      cases hclose : Sql.Brackets.closeFrom {} none 0 token.stop rest with
      | none =>
          rw [hclose] at hgroup
          rw [hgroup] at h
          cases h
      | some close =>
          obtain ⟨inner, b, hsplit, hinner, hposition⟩ :=
            Sql.Brackets.exists_balanced_of_closeFrom hclose
          rw [hclose] at hgroup
          obtain ⟨a, b', found, hsplit', hposition', hgroup⟩ := hgroup
          have ha : a.length = inner.length := by omega
          obtain ⟨rfl, hb⟩ := List.append_inj (hsplit'.symm.trans hsplit) ha
          cases hb
          rw [hgroup] at h
          cases h
          refine ⟨gap, a, b, by rw [hsplit]; rfl, hgap, hinner, ?_,
            by rw [Group.map, readToken_stop]; rfl⟩
          simp only [Group.map, readToken_stop, parenToken, List.length_append, List.length_cons,
            List.length_nil] at hstop ⊢
          omega

end RelSchema.Ddl
