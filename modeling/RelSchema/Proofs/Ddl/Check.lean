import Mathlib.Data.List.Find
import RelSchema.Proofs.Ddl.Compound
import RelSchema.Proofs.Ddl.Reference

/-!
# Checks behind a column

What the definition of a column says behind its type is looked for among all tokens there, those of
the expression of a check included. The parentheses around the expression keep it apart only from
what ends before them: the type, a default and a reference that the definition has itself. Two
adjacent words of the expression are taken for a mark of the column, and its words for a default and
a reference where the definition has none.
-/

namespace RelSchema.Ddl

open Sql (Token Level Balanced SelfContained Trimmed isWordPart isQuote quotes
  isBreak_closing isBreak_gap)
open Sql.Pending (wordToken parenToken)
open Text (openQuote)

/-- Whether every parenthesis that the tokens open is closed again. -/
def Closed (tokens : List Token) : Prop :=
  ∃ depth, Sql.nesting? depth tokens = some 0

theorem Closed.of_append (front : List Token) {back : List Token} (h : Closed (front ++ back)) :
    Closed back := by
  obtain ⟨depth, hdepth⟩ := h
  rw [Sql.nesting?, List.foldlM_append] at hdepth
  obtain ⟨next, -, hnext⟩ := Option.bind_eq_some_iff.mp hdepth
  exact ⟨next, hnext⟩

theorem closed_tokensAt (dialect : Dialect) {text : List Char} (h : Balanced text)
    (position : Nat) : Closed (tokensAt dialect position text) :=
  ⟨0, nesting?_tokensAt dialect h 0 position⟩

/-- A group ends where the parentheses around it and more are closed. -/
theorem groupFrom?_isSome {depth outer : Nat} {tokens : List Token}
    (h : Sql.nesting? outer tokens = some 0) (hdepth : depth < outer) :
    (Sql.groupFrom? depth tokens).isSome := by
  induction tokens generalizing depth outer with
  | nil =>
      cases h
      omega
  | cons token tokens ih =>
      obtain ⟨next, hnext, hrest⟩ := Sql.nesting?_cons_eq_some_iff.mp h
      rcases Token.cases_of_nest? hnext with ⟨hopen, rfl⟩ | ⟨hclose, rfl⟩ | ⟨hopen, hclose, rfl⟩
      · rw [Sql.groupFrom?_opening hopen, Option.isSome_map]
        exact ih hrest (by omega)
      · cases depth with
        | zero => simp [Sql.groupFrom?, hclose]
        | succ depth =>
            rw [Sql.groupFrom?_closing hclose, Option.isSome_map]
            exact ih hrest (by omega)
      · rw [Sql.groupFrom?_other hopen hclose, Option.isSome_map]
        exact ih hrest hdepth

theorem rest_suffix_of_groupFrom? {depth : Nat} {tokens : List Token} {group : Sql.Group}
    (h : Sql.groupFrom? depth tokens = some group) : group.rest <:+ tokens := by
  induction tokens generalizing depth group with
  | nil => cases h
  | cons token tokens ih =>
      simp only [Sql.groupFrom?] at h
      split at h
      · cases h
        exact List.suffix_cons token tokens
      all_goals
        obtain ⟨found, hfound, rfl⟩ := Option.map_eq_some_iff.mp h
        exact (ih hfound).trans (List.suffix_cons token tokens)

theorem rest_suffix_of_group? {tokens : List Token} {group : Sql.Group}
    (h : Sql.group? tokens = some group) : group.rest <:+ tokens := by
  cases tokens with
  | nil => cases h
  | cons token tokens =>
      rw [Sql.group?] at h
      split_ifs at h
      exact (rest_suffix_of_groupFrom? h).trans (List.suffix_cons token tokens)

/-- Tokens behind closed ones, the first of which opens nothing, only follow their first group. -/
theorem Closed.group?_append {tokens more : List Token} (h : Closed tokens)
    (hmore : ∀ token ∈ more.head?, token.kind ≠ .opening) :
    Sql.group? (tokens ++ more)
      = (Sql.group? tokens).map fun group => { group with rest := group.rest ++ more } := by
  cases tokens with
  | nil =>
      cases more with
      | nil => rfl
      | cons token more => exact Sql.group?_other (hmore token rfl) more
  | cons token tokens =>
      by_cases hopen : token.kind = .opening
      · obtain ⟨outer, houter⟩ := h
        obtain ⟨next, hnext, hrest⟩ := Sql.nesting?_cons_eq_some_iff.mp houter
        rw [Token.nest?_opening hopen] at hnext
        cases hnext
        obtain ⟨group, hgroup⟩ :=
          Option.isSome_iff_exists.mp (groupFrom?_isSome hrest (Nat.succ_pos outer))
        have hfound : Sql.group? (token :: tokens) = some group := by
          rw [Sql.group?_opening hopen, hgroup]
        rw [Sql.group?_append_of_some hfound, hfound, Option.map_some]
      · rw [List.cons_append, Sql.group?_other hopen, Sql.group?_other hopen, Option.map_none]

theorem Closed.listedNames_append {tokens more : List Token} (h : Closed tokens)
    (hmore : ∀ token ∈ more.head?, token.kind ≠ .opening) :
    Sql.listedNames (tokens ++ more) = Sql.listedNames tokens := by
  rw [Sql.listedNames, h.group?_append hmore, Option.map_map]
  rfl

/-- A default among closed tokens ends with them at the latest if a keyword that ends it follows. -/
theorem defaultTokens_append {depth outer : Nat} {isFirst : Bool} {tokens more : List Token}
    (h : Sql.nesting? outer tokens = some 0) (hdepth : depth ≤ outer)
    (hfirst : isFirst = false ∨ tokens ≠ [])
    (hmore : ∀ token ∈ more.head?, token.isKeyword defaultTerminators = true) :
    defaultTokens isFirst depth (tokens ++ more) = defaultTokens isFirst depth tokens := by
  induction tokens generalizing depth outer isFirst with
  | nil =>
      cases h
      obtain rfl : depth = 0 := Nat.le_zero.mp hdepth
      obtain rfl : isFirst = false := hfirst.resolve_right (absurd rfl)
      cases more with
      | nil => rfl
      | cons token more =>
          have hends : endsDefault false 0 token = true := by
            simp [endsDefault, hmore token rfl]
          rw [List.nil_append, defaultTokens_cons, hends]
          rfl
  | cons token tokens ih =>
      obtain ⟨next, hnext, hrest⟩ := Sql.nesting?_cons_eq_some_iff.mp h
      have hbehind : depthBehind depth token ≤ next := by
        rcases Token.cases_of_nest? hnext with ⟨hopen, rfl⟩ | ⟨hclose, rfl⟩ | ⟨hopen, hclose, rfl⟩
        · simpa [depthBehind, hopen] using hdepth
        · simpa [depthBehind, hclose] using hdepth
        · cases hkind : token.kind with
          | opening => exact absurd hkind hopen
          | closing => exact absurd hkind hclose
          | word | quotedName | string => simpa [depthBehind, hkind] using hdepth
      rw [List.cons_append, defaultTokens_cons, defaultTokens_cons, ih hrest hbehind (Or.inl rfl)]

/-- The tokens behind a type are the last ones, and no part of the type starts among them. -/
theorem typeEnd_spec (stop : Nat) (tokens : List Token) :
    (typeEnd stop tokens).2 <:+ tokens ∧ Sql.group? (typeEnd stop tokens).2 = none ∧
      (suffixLength (typeEnd stop tokens).2 = 0 ∨ (typeEnd stop tokens).2 = []) := by
  induction stop, tokens using typeEnd.induct with
  | case1 stop tokens group hgroup ih =>
      rw [typeEnd_of_group hgroup]
      exact ⟨ih.1.trans (rest_suffix_of_group? hgroup), ih.2⟩
  | case2 stop tokens hgroup hnone =>
      rw [typeEnd_of_end hgroup hnone]
      exact ⟨List.suffix_rfl, hgroup, hnone⟩
  | case3 stop tokens hgroup hsome last ih =>
      rw [typeEnd_of_suffix hgroup hsome]
      exact ⟨ih.1.trans (List.drop_suffix _ _), ih.2⟩

/-- The tokens of a check: its keyword and those of its expression in parentheses. -/
inductive CheckTokens (inner : List Token) : List Token → Prop
  | intro {word opening closing : Token} (hkind : word.kind = .word) (hupper : word.upper = "CHECK")
      (hopening : opening.kind = .opening) (hclosing : closing.kind = .closing) :
      CheckTokens inner (word :: opening :: (inner ++ [closing]))

namespace CheckTokens

variable {inner more : List Token}

theorem head_kind (h : CheckTokens inner more) : ∀ token ∈ more.head?, token.kind ≠ .opening := by
  cases h with
  | intro hkind _ _ _ =>
      intro token htoken
      cases htoken
      rw [hkind]
      decide

theorem head_isKeyword (h : CheckTokens inner more) :
    ∀ token ∈ more.head?, token.isKeyword defaultTerminators = true := by
  cases h with
  | intro hkind hupper _ _ =>
      intro token htoken
      cases htoken
      rw [Token.isKeyword, hkind, hupper]
      decide

theorem bareWords_eq (h : CheckTokens inner more) :
    bareWords more = "CHECK" :: bareWords inner := by
  cases h with
  | intro hkind hupper hopening hclosing =>
      rw [bareWords_cons_of_word hkind, hupper, bareWords_cons_of_ne (by rw [hopening]; decide),
        bareWords_append, bareWords_cons_of_ne (by rw [hclosing]; decide)]
      exact congrArg _ (List.append_nil _)

theorem startsWith_append (h : CheckTokens inner more) {words : List String}
    (hwords : "CHECK" ∉ words) (tokens : List Token) :
    startsWith words (tokens ++ more) = startsWith words tokens := by
  cases h with
  | @intro keyword _ _ _ hupper _ _ =>
      induction words generalizing tokens with
      | nil => rw [startsWith, startsWith]
      | cons word words ih =>
          obtain ⟨hword, hwords⟩ := not_or.mp (mt List.mem_cons.mpr hwords)
          cases tokens with
          | nil =>
              have hkeyword : keyword.isKeyword [word] = false :=
                isKeyword_false_of_upper (by rw [hupper]; exact hword)
              change (keyword.isKeyword [word] && startsWith words _) = false
              rw [hkeyword, Bool.false_and]
          | cons token tokens => rw [List.cons_append, startsWith, startsWith, ih hwords]

theorem suffixLength_append (h : CheckTokens inner more) (tokens : List Token) :
    suffixLength (tokens ++ more) = suffixLength tokens := by
  have hsuffixes : ∀ suffix ∈ typeSuffixes, "CHECK" ∉ suffix := by decide
  have hfind : typeSuffixes.find? (fun suffix => startsWith suffix (tokens ++ more))
      = typeSuffixes.find? fun suffix => startsWith suffix tokens :=
    List.find?_congr fun suffix hsuffix => h.startsWith_append (hsuffixes suffix hsuffix) tokens
  rw [suffixLength, suffixLength, hfind]

theorem typeEnd_append (h : CheckTokens inner more) {tokens : List Token} (hclosed : Closed tokens)
    (stop : Nat) :
    typeEnd stop (tokens ++ more) = ((typeEnd stop tokens).1, (typeEnd stop tokens).2 ++ more) := by
  refine Ddl.typeEnd_append fun last => ?_
  obtain ⟨⟨before, hbefore⟩, hgroup, hsuffix⟩ := typeEnd_spec stop tokens
  rw [← hbefore] at hclosed
  refine typeEnd_of_end ?_ ?_ last
  · rw [(hclosed.of_append _).group?_append h.head_kind, hgroup, Option.map_none]
  · rcases hsuffix with hzero | hnil
    · exact Or.inl (by rw [h.suffixLength_append, hzero])
    · left
      rw [hnil, h.suffixLength_append]
      decide

end CheckTokens

/-- Whether the keyword stands among the tokens with another token behind it. -/
def Introduces (keyword : String) (tokens : List Token) : Prop :=
  2 ≤ (tokens.dropWhile (!·.isKeyword [keyword])).length

instance (keyword : String) (tokens : List Token) : Decidable (Introduces keyword tokens) :=
  inferInstanceAs (Decidable (_ ≤ _))

/-- The keyword is not there, or the search for it ends at a token whose followers it introduces. -/
theorem introduces_cases (keyword : String) (tokens : List Token) :
    (¬ Introduces keyword tokens ∧ ∀ token ∈ tokens, token.isKeyword [keyword] = false) ∨
      ∃ front token rest, tokens = front ++ token :: rest ∧ token.isKeyword [keyword] = true ∧
        (Introduces keyword tokens ↔ rest ≠ []) ∧
        ∀ more, (tokens ++ more).dropWhile (!·.isKeyword [keyword]) = token :: (rest ++ more) := by
  unfold Introduces
  cases hdrop : tokens.dropWhile (!·.isKeyword [keyword]) with
  | nil => exact Or.inl ⟨by simp, by simpa using hdrop⟩
  | cons token rest =>
      have hsplit := List.takeWhile_append_dropWhile (p := (!·.isKeyword [keyword])) (l := tokens)
      have hkeyword := List.head?_dropWhile_not (!·.isKeyword [keyword]) tokens
      rw [hdrop] at hsplit hkeyword
      refine Or.inr ⟨_, token, rest, hsplit.symm, by simpa using hkeyword, ?_, fun more => ?_⟩
      · rw [List.length_cons, ← List.length_pos_iff]
        omega
      · rw [List.dropWhile_append, hdrop]
        rfl

theorem dropWhile_of_not_isKeyword {keyword : String} {tokens : List Token}
    (h : ∀ token ∈ tokens, token.isKeyword [keyword] = false) (more : List Token) :
    (tokens ++ more).dropWhile (!·.isKeyword [keyword])
      = more.dropWhile (!·.isKeyword [keyword]) :=
  List.dropWhile_append_of_pos fun token htoken => by rw [h token htoken]; rfl

theorem dropWhile_closing {closing : Token} (h : closing.kind = .closing) (keyword : String) :
    [closing].dropWhile (!·.isKeyword [keyword]) = [] := by
  have hkeyword : closing.isKeyword [keyword] = false := isKeyword_of_kind_ne (by rw [h]; decide) _
  simp [hkeyword]

theorem CheckTokens.dropWhile_eq {inner more : List Token} (h : CheckTokens inner more)
    (keyword : String) (hkeyword : "CHECK" ≠ keyword) :
    ∃ closing : Token, closing.kind = .closing ∧ more.dropWhile (!·.isKeyword [keyword])
      = (inner ++ [closing]).dropWhile (!·.isKeyword [keyword]) := by
  cases h with
  | @intro word opening closing hkind hupper hopening hclosing =>
      have hlead : ∀ token ∈ [word, opening], token.isKeyword [keyword] = false := by
        intro token htoken
        rcases List.mem_pair.mp htoken with rfl | rfl
        · exact isKeyword_false_of_upper (by rw [hupper]; exact hkeyword)
        · exact isKeyword_of_kind_ne (by rw [hopening]; decide) _
      exact ⟨closing, hclosing, dropWhile_of_not_isKeyword hlead _⟩

theorem defaultTokens_subset (isFirst : Bool) (depth : Nat) (tokens : List Token) :
    defaultTokens isFirst depth tokens ⊆ tokens := by
  induction tokens generalizing isFirst depth with
  | nil => exact List.Subset.refl _
  | cons token tokens ih =>
      rw [defaultTokens_cons]
      split_ifs
      · exact List.nil_subset _
      · exact List.cons_subset_cons token (ih false _)

/-- The value of a default is the same in front of further text. -/
theorem defaultOfTokens_append_left {definition : List Char} {tokens : List Token}
    (hstop : ∀ token ∈ tokens, token.stop ≤ definition.length) (text : List Char) :
    defaultOfTokens (definition ++ text) tokens = defaultOfTokens definition tokens := by
  cases tokens with
  | nil => rfl
  | cons first rest =>
      have hlast : (rest.getLast?.getD first).stop ≤ definition.length := by
        cases hrest : rest.getLast? with
        | none => exact hstop first List.mem_cons_self
        | some last => exact hstop last (List.mem_cons_of_mem _ (List.mem_of_getLast? hrest))
      simp only [defaultOfTokens, defaultText, slice_append_left hlast]

section Keywords

variable {definition : List Char} {modifiers inner more : List Token}

/-- A check speaks of a default exactly if its expression does. -/
theorem default?_check_isSome_iff (definition : List Char) (hmore : CheckTokens inner more) :
    (default? definition more).isSome ↔ ∃ token ∈ inner, token.isKeyword ["DEFAULT"] = true := by
  obtain ⟨closing, hclosing, hmore⟩ := hmore.dropWhile_eq "DEFAULT" (by decide)
  rw [default?, hmore]
  rcases introduces_cases "DEFAULT" inner with
    ⟨-, hnone⟩ | ⟨front, token, rest, hsplit, hkeyword, -, hdrop⟩
  · rw [dropWhile_of_not_isKeyword hnone, dropWhile_closing hclosing]
    refine iff_of_false Bool.false_ne_true ?_
    rintro ⟨token, htoken, hkeyword⟩
    rw [hnone token htoken] at hkeyword
    cases hkeyword
  · rw [hdrop]
    refine iff_of_true ?_ ⟨token, by simp [hsplit], hkeyword⟩
    cases rest <;> rfl

/-- A check refers to what its expression refers to. -/
theorem reference?_check (hclosed : Closed inner) (hmore : CheckTokens inner more) :
    reference? more = reference? inner := by
  obtain ⟨closing, hclosing, hmore⟩ := hmore.dropWhile_eq "REFERENCES" (by decide)
  have hclose : closing.isName = false := by simp [Token.isName, hclosing]
  rw [reference?, reference?, hmore]
  rcases introduces_cases "REFERENCES" inner with
    ⟨-, hnone⟩ | ⟨front, token, rest, hsplit, -, -, hdrop⟩
  · have hinner := dropWhile_of_not_isKeyword hnone []
    rw [List.append_nil] at hinner
    rw [dropWhile_of_not_isKeyword hnone, hinner, dropWhile_closing hclosing]
    rfl
  · have hinner := hdrop []
    rw [List.append_nil, List.append_nil] at hinner
    rw [hdrop, hinner]
    cases rest with
    | nil => simp [hclose]
    | cons target rest =>
        rw [hsplit] at hclosed
        have hrest : Closed rest := (hclosed.of_append front).of_append [token, target]
        simp only [List.cons_append]
        rw [hrest.listedNames_append]
        intro other hother
        cases hother
        rw [hclosing]
        decide

/-- A check leaves a default alone that the modifiers have, and adds none if it does not speak of
one; otherwise there is one now. -/
theorem default?_append_check (hclosed : Closed modifiers)
    (hstop : ∀ token ∈ modifiers, token.stop ≤ definition.length) (hmore : CheckTokens inner more)
    (text : List Char) :
    ((Introduces "DEFAULT" modifiers ∨
        ∀ token ∈ modifiers ++ inner, token.isKeyword ["DEFAULT"] = false) ∧
      default? (definition ++ text) (modifiers ++ more) = default? definition modifiers) ∨
    (¬ (Introduces "DEFAULT" modifiers ∨
        ∀ token ∈ modifiers ++ inner, token.isKeyword ["DEFAULT"] = false) ∧
      default? definition modifiers = none ∧
        (default? (definition ++ text) (modifiers ++ more)).isSome) := by
  rcases introduces_cases "DEFAULT" modifiers with
    ⟨hnot, hnone⟩ | ⟨front, token, rest, hsplit, hkeyword, hintroduces, hdrop⟩
  · have hbefore : default? definition modifiers = none := by
      have happend := default?_append_of_not_isKeyword definition hnone []
      rwa [List.append_nil] at happend
    have hcheck := default?_check_isSome_iff (definition ++ text) hmore
    rw [default?_append_of_not_isKeyword _ hnone, hbefore]
    by_cases hinner : ∃ token ∈ inner, token.isKeyword ["DEFAULT"] = true
    · refine Or.inr ⟨not_or.mpr ⟨hnot, fun h => ?_⟩, rfl, hcheck.mpr hinner⟩
      obtain ⟨token, htoken, hkeyword⟩ := hinner
      rw [h token (List.mem_append_right _ htoken)] at hkeyword
      cases hkeyword
    · refine Or.inl ⟨Or.inr fun token htoken => ?_, ?_⟩
      · rcases List.mem_append.mp htoken with hmem | hmem
        · exact hnone token hmem
        · exact Bool.eq_false_iff.mpr fun hkeyword => hinner ⟨token, hmem, hkeyword⟩
      · simpa using mt hcheck.mp hinner
  · have hbefore := hdrop []
    rw [List.append_nil, List.append_nil] at hbefore
    cases rest with
    | nil =>
        refine Or.inr ⟨not_or.mpr ⟨fun h => hintroduces.mp h rfl, fun h => ?_⟩, ?_, ?_⟩
        · rw [h token (by simp [hsplit])] at hkeyword
          cases hkeyword
        · rw [default?, hbefore]
        · rw [default?, hdrop]
          cases hmore
          rfl
    | cons next rest =>
        refine Or.inl ⟨Or.inl (hintroduces.mpr (List.cons_ne_nil next rest)), ?_⟩
        rw [hsplit] at hclosed hstop
        obtain ⟨depth, hdepth⟩ := (hclosed.of_append front).of_append [token]
        have hdefault : defaultTokens true 0 (next :: rest ++ more)
            = defaultTokens true 0 (next :: rest) :=
          defaultTokens_append hdepth (Nat.zero_le _) (Or.inr (List.cons_ne_nil next rest))
            hmore.head_isKeyword
        rw [default?, default?, hdrop, hbefore]
        rw [List.cons_append] at hdefault ⊢
        simp only [hdefault, Option.some.injEq]
        refine defaultOfTokens_append_left (fun other hother => hstop other ?_) text
        exact List.mem_append_right _ (List.mem_cons_of_mem _ (defaultTokens_subset _ _ _ hother))

/-- A check leaves a reference alone that the modifiers have, and adds none if its expression makes
none; otherwise there is one now. -/
theorem reference?_append_check (hclosed : Closed modifiers) (hinner : Closed inner)
    (hmore : CheckTokens inner more) :
    ((Introduces "REFERENCES" modifiers ∨
        (∀ token ∈ modifiers, token.isKeyword ["REFERENCES"] = false) ∧
          reference? inner = none) ∧
      reference? (modifiers ++ more) = reference? modifiers) ∨
    (¬ (Introduces "REFERENCES" modifiers ∨
        (∀ token ∈ modifiers, token.isKeyword ["REFERENCES"] = false) ∧
          reference? inner = none) ∧
      reference? modifiers = none ∧ (reference? (modifiers ++ more)).isSome) := by
  rcases introduces_cases "REFERENCES" modifiers with
    ⟨hnot, hnone⟩ | ⟨front, token, rest, hsplit, hkeyword, hintroduces, hdrop⟩
  · have hbefore : reference? modifiers = none := by
      have happend := reference?_append_of_not_isKeyword hnone []
      rwa [List.append_nil] at happend
    rw [reference?_append_of_not_isKeyword hnone, reference?_check hinner hmore, hbefore]
    cases hreference : reference? inner with
    | none => exact Or.inl ⟨Or.inr ⟨hnone, rfl⟩, rfl⟩
    | some reference => exact Or.inr ⟨not_or.mpr ⟨hnot, fun h => nomatch h.2⟩, rfl, rfl⟩
  · have hbefore := hdrop []
    rw [List.append_nil, List.append_nil] at hbefore
    cases rest with
    | nil =>
        refine Or.inr ⟨not_or.mpr ⟨fun h => hintroduces.mp h rfl, fun h => ?_⟩, ?_, ?_⟩
        · rw [h.1 token (by simp [hsplit])] at hkeyword
          cases hkeyword
        · rw [reference?, hbefore]
        · rw [reference?, hdrop]
          cases hmore with
          | intro hkind _ _ _ => simp [Token.isName, hkind]
    | cons target rest =>
        refine Or.inl ⟨Or.inl (hintroduces.mpr (List.cons_ne_nil target rest)), ?_⟩
        rw [hsplit] at hclosed
        have hrest : Closed rest := (hclosed.of_append front).of_append [token, target]
        rw [reference?, reference?, hdrop, hbefore]
        simp only [List.cons_append]
        rw [hrest.listedNames_append hmore.head_kind]

end Keywords

/-! ### Checks in a definition

Behind the name and the type a column is made of four readings of the same tokens: two marks, a
default and a reference. The tokens of a check stand last among them, so the check goes unnoticed
exactly if no reading finds more with them than without.
-/

def checkText (gap e : List Char) : List Char :=
  gap ++ ("CHECK".toList ++ (' ' :: '(' :: (e ++ [')'])))

theorem checkTokens_tokensAt (dialect : Dialect) {gap e : List Char}
    (hgap : ∀ c ∈ gap, Text.isSeparator c = true) (he : Balanced e) (position : Nat) :
    CheckTokens (tokensAt dialect (position + gap.length + 7) e)
      (tokensAt dialect position (checkText gap e)) := by
  have hword : ∀ c ∈ (' ' :: '(' :: (e ++ [')'])).head?, isWordPart c = false := by
    intro c hc
    cases hc
    decide
  rw [checkText, tokensAt_gap dialect position hgap,
    tokensAt_word dialect _ (by decide) (by decide) hword, tokensAt_space, tokensAt_opening,
    tokensAt_append dialect he.openQuote_eq (isBreak_closing []), tokensAt_closing]
  exact .intro rfl (by rw [Token.upper, value_wordToken]; decide) rfl rfl

theorem stop_le_length {dialect : Dialect} {text : List Char}
    (hclosed : openQuote quotes none text = none) :
    ∀ token ∈ tokens dialect text, token.stop ≤ text.length := by
  intro token htoken
  obtain ⟨raw, hraw, rfl⟩ := List.mem_map.mp htoken
  obtain ⟨before, rest, hsplit⟩ := List.append_of_mem hraw
  obtain ⟨front, back, rfl, hstop, -, -⟩ := Sql.exists_append_of_tokensFrom hclosed hsplit
  rw [readToken_stop, hstop, List.length_append]
  omega

def columnFrom (name type : String) (isKey isRequired : Bool) (defaultValue : Option String)
    (target? : Option Reference) : Column :=
  let column : Column := {
    name, type, isPrimaryKey := isKey, isNullable := !(isKey || isRequired), defaultValue }
  match target? with
  | none => column
  | some target => column.asForeignKey target.table target.columns.head?

theorem readColumn_eq_columnFrom (definition : List Char) (name type : Token) (rest : List Token) :
    readColumn definition name type rest
      = columnFrom (columnName name)
          (.ofList (Sql.slice definition type.start (typeEnd type.stop rest).1))
          (hasPair "PRIMARY" "KEY" (bareWords (typeEnd type.stop rest).2)
            || serialTypes.contains type.upper)
          (hasPair "NOT" "NULL" (bareWords (typeEnd type.stop rest).2))
          (default? definition (typeEnd type.stop rest).2)
          (reference? (typeEnd type.stop rest).2) := rfl

section ColumnFrom

variable (name type : String) (isKey isRequired : Bool) (defaultValue : Option String)
  (target? : Option Reference)

theorem isPrimaryKey_columnFrom :
    (columnFrom name type isKey isRequired defaultValue target?).isPrimaryKey = isKey := by
  cases target? <;> rfl

theorem isNullable_columnFrom :
    (columnFrom name type isKey isRequired defaultValue target?).isNullable
      = !(isKey || isRequired) := by
  cases target? <;> rfl

theorem defaultValue_columnFrom :
    (columnFrom name type isKey isRequired defaultValue target?).defaultValue = defaultValue := by
  cases target? <;> rfl

theorem isForeignKey_columnFrom :
    (columnFrom name type isKey isRequired defaultValue target?).isForeignKey = target?.isSome := by
  cases target? <;> rfl

theorem columnFrom_eq_iff {name type : String} {isKey isRequired isKey' isRequired' : Bool}
    {defaultValue : Option String} {target? : Option Reference} :
    columnFrom name type isKey' isRequired' defaultValue target?
        = columnFrom name type isKey isRequired defaultValue target? ↔
      isKey' = isKey ∧ (isKey' || isRequired') = (isKey || isRequired) := by
  constructor
  · intro h
    have hkey := congrArg Column.isPrimaryKey h
    have hnull := congrArg Column.isNullable h
    rw [isPrimaryKey_columnFrom, isPrimaryKey_columnFrom] at hkey
    rw [isNullable_columnFrom, isNullable_columnFrom] at hnull
    exact ⟨hkey, Bool.not_inj hnull⟩
  · rintro ⟨hkey, hmark⟩
    unfold columnFrom
    rw [hmark, hkey]

end ColumnFrom

/-- Whether a check of the expression adds nothing to the column of the definition in front of it.
Its words are no mark that the column does not have, and it has no default and no reference unless
the definition has its own. -/
structure Unnoticed (dialect : Dialect) (column : Column) (start e : List Char) : Prop where
  key : hasPair "PRIMARY" "KEY" (bareWords (tokens dialect e)) = true → column.isPrimaryKey = true
  required : hasPair "NOT" "NULL" (bareWords (tokens dialect e)) = true → column.isNullable = false
  default : Introduces "DEFAULT" (modifierTokens dialect start) ∨
    ∀ token ∈ modifierTokens dialect start ++ tokens dialect e, token.isKeyword ["DEFAULT"] = false
  reference : Introduces "REFERENCES" (modifierTokens dialect start) ∨
    (∀ token ∈ modifierTokens dialect start, token.isKeyword ["REFERENCES"] = false) ∧
      reference? (tokens dialect e) = none

theorem CheckTokens.hasPair_append {inner more : List Token} (h : CheckTokens inner more)
    {first second : String} (hfirst : "CHECK" ≠ first) (hsecond : "CHECK" ≠ second)
    (modifiers : List Token) :
    hasPair first second (bareWords (modifiers ++ more))
      = (hasPair first second (bareWords modifiers) || hasPair first second (bareWords inner)) := by
  rw [bareWords_append, h.bareWords_eq, hasPair_append_cons hfirst hsecond]

/-- A column is the same with the tokens of a check behind its modifiers exactly if these have the
marks that the words of the expression make, and the default and the reference are the same. -/
theorem columnFrom_check_iff {definition : List Char} (text : List Char)
    {modifiers inner more : List Token} (hclosed : Closed modifiers) (hinner : Closed inner)
    (hstop : ∀ token ∈ modifiers, token.stop ≤ definition.length) (hmore : CheckTokens inner more)
    (name type : String) (isSerial : Bool) {column : Column}
    (hcolumn : columnFrom name type (hasPair "PRIMARY" "KEY" (bareWords modifiers) || isSerial)
      (hasPair "NOT" "NULL" (bareWords modifiers)) (default? definition modifiers)
      (reference? modifiers) = column) :
    columnFrom name type (hasPair "PRIMARY" "KEY" (bareWords (modifiers ++ more)) || isSerial)
        (hasPair "NOT" "NULL" (bareWords (modifiers ++ more)))
        (default? (definition ++ text) (modifiers ++ more)) (reference? (modifiers ++ more)) = column ↔
      (hasPair "PRIMARY" "KEY" (bareWords inner) = true → column.isPrimaryKey = true) ∧
      (hasPair "NOT" "NULL" (bareWords inner) = true → column.isNullable = false) ∧
      (Introduces "DEFAULT" modifiers ∨
        ∀ token ∈ modifiers ++ inner, token.isKeyword ["DEFAULT"] = false) ∧
      (Introduces "REFERENCES" modifiers ∨
        (∀ token ∈ modifiers, token.isKeyword ["REFERENCES"] = false) ∧
          reference? inner = none) := by
  rw [hmore.hasPair_append (by decide) (by decide), hmore.hasPair_append (by decide) (by decide)]
  rcases default?_append_check hclosed hstop hmore text with
    ⟨hdefault, hsame⟩ | ⟨hdefault, hnone, hsome⟩
  · rcases reference?_append_check hclosed hinner hmore with
      ⟨hreference, hlink⟩ | ⟨hreference, hnone, hsome⟩
    · rw [hsame, hlink, ← hcolumn, columnFrom_eq_iff, isPrimaryKey_columnFrom,
        isNullable_columnFrom, and_iff_left hreference, and_iff_left hdefault]
      generalize hasPair "PRIMARY" "KEY" (bareWords modifiers) = hasKey
      generalize hasPair "PRIMARY" "KEY" (bareWords inner) = saysKey
      generalize hasPair "NOT" "NULL" (bareWords modifiers) = hasMark
      generalize hasPair "NOT" "NULL" (bareWords inner) = saysMark
      clear * -
      revert isSerial hasKey saysKey hasMark saysMark
      decide
    · refine iff_of_false (fun h => ?_) fun h => hreference h.2.2.2
      have hforeign := congrArg Column.isForeignKey (h.trans hcolumn.symm)
      rw [isForeignKey_columnFrom, isForeignKey_columnFrom, hsome, hnone] at hforeign
      cases hforeign
  · refine iff_of_false (fun h => ?_) fun h => hdefault h.2.2.1
    have hvalue := congrArg Column.defaultValue (h.trans hcolumn.symm)
    rw [defaultValue_columnFrom, defaultValue_columnFrom, hnone] at hvalue
    rw [hvalue] at hsome
    cases hsome

/-- A definition with a check behind it is read as the same column exactly if the check adds nothing
to it. -/
theorem readDefinition_check_iff {dialect : Dialect} {column : Column} {start gap e : List Char}
    (hstart : Balanced start) (hread : readDefinition dialect start = .column column)
    (hgap : ∀ c ∈ gap, Text.isSeparator c = true) (hne : gap ≠ []) (he : Balanced e) :
    readDefinition dialect (start ++ checkText gap e) = .column column ↔
      Unnoticed dialect column start e := by
  obtain ⟨name, type, rest, htokens, hstarts, hcolumn⟩ := readDefinition_eq_column_iff.mp hread
  have hmore := checkTokens_tokensAt dialect hgap he start.length
  set more := tokensAt dialect start.length (checkText gap e) with hmoreText
  have hall : tokens dialect (start ++ checkText gap e) = name :: type :: (rest ++ more) := by
    have hbreak : ∀ c ∈ (checkText gap e).head?, isQuote c = false ∧ isWordPart c = false :=
      isBreak_gap hgap (absurd · hne)
    rw [tokens_eq_tokensAt, tokensAt_append dialect hstart.openQuote_eq hbreak, Nat.zero_add,
      ← tokens_eq_tokensAt, htokens]
    rfl
  have hmodifiers : modifierTokens dialect start = (typeEnd type.stop rest).2 := by
    rw [modifierTokens, htokens]
  obtain ⟨hsuffix, -⟩ := typeEnd_spec type.stop rest
  have hclosed : Closed rest := by
    have hwhole := closed_tokensAt dialect hstart 0
    rw [← tokens_eq_tokensAt, htokens] at hwhole
    exact hwhole.of_append [name, type]
  have hstop : ∀ token ∈ (typeEnd type.stop rest).2, token.stop ≤ start.length := by
    intro token htoken
    have hmem : token ∈ tokens dialect start := by
      rw [htokens]
      exact List.mem_cons_of_mem _ (List.mem_cons_of_mem _ (hsuffix.subset htoken))
    exact stop_le_length hstart.openQuote_eq token hmem
  have hread' : readDefinition dialect (start ++ checkText gap e) = .column column ↔
      readColumn (start ++ checkText gap e) name type (rest ++ more) = column := by
    rw [readDefinition_eq_column_iff, hall]
    constructor
    · rintro ⟨_, _, _, heq, -, hcolumn⟩
      cases heq
      exact hcolumn
    · exact fun h => ⟨name, type, _, rfl, hstarts, h⟩
  rw [readColumn_eq_columnFrom] at hcolumn
  have hiff := columnFrom_check_iff (checkText gap e)
    (hsuffix.elim fun before hbefore => (hbefore ▸ hclosed).of_append before)
    (closed_tokensAt dialect he _) hstop hmore _ _ _ hcolumn
  rw [hread', readColumn_eq_columnFrom, hmore.typeEnd_append hclosed,
    slice_append_left (typeEnd_le_length hstart.openQuote_eq htokens), hiff,
    tokensAt_eq_map_shift, bareWords_map (Token.keeps_shift _),
    reference?_map (Token.keeps_shift _)]
  have hwords : (∀ token ∈ (typeEnd type.stop rest).2
        ++ (tokens dialect e).map (Token.shift (start.length + gap.length + 7)),
        token.isKeyword ["DEFAULT"] = false) ↔
      ∀ token ∈ (typeEnd type.stop rest).2 ++ tokens dialect e,
        token.isKeyword ["DEFAULT"] = false := by
    rw [List.forall_mem_append, List.forall_mem_append, List.forall_mem_map]
    simp only [(Token.keeps_shift _).isKeyword]
  rw [hwords, ← hmodifiers]
  constructor
  · rintro ⟨hkey, hrequired, hdefault, hreference⟩
    exact ⟨hkey, hrequired, hdefault, hreference⟩
  · exact fun h => ⟨h.key, h.required, h.default, h.reference⟩

namespace TableScript

/-- The script with a definition in blanks between other texts of its table. -/
def around (script : TableScript) (front back : List (List Char)) (lead trail definition : List Char) :
    TableScript :=
  { script with parts := front ++ (lead ++ (definition ++ trail)) :: back }

variable {script : TableScript} {front back : List (List Char)} {lead trail : List Char}
  {dialect : Dialect} {name : String}

theorem parts_around (definition : List Char) :
    (script.around front back lead trail definition).parts
      = front ++ (lead ++ (definition ++ trail)) :: back :=
  rfl

theorem trim_around {definition : List Char} (hlead : ∀ c ∈ lead, Text.isBlank c = true)
    (htrail : ∀ c ∈ trail, Text.isBlank c = true) (hdefinition : Trimmed definition) :
    Text.trim (lead ++ (definition ++ trail)) = definition := by
  rw [← List.append_assoc]
  exact Text.trim_append_append hlead htrail hdefinition.first hdefinition.last

theorem definitionTexts_around_ne_nil {definition : List Char}
    (hlead : ∀ c ∈ lead, Text.isBlank c = true) (htrail : ∀ c ∈ trail, Text.isBlank c = true)
    (hdefinition : Trimmed definition) :
    (script.around front back lead trail definition).definitionTexts ≠ [] := by
  refine definitionTexts_ne_nil_of_parts (parts_around definition) ?_
  rw [trim_around hlead htrail hdefinition]
  exact hdefinition.ne_nil

theorem definitions_around {definition : List Char} (hlead : ∀ c ∈ lead, Text.isBlank c = true)
    (htrail : ∀ c ∈ trail, Text.isBlank c = true) (hdefinition : Trimmed definition)
    (dialect : Dialect) (name : String) :
    ((script.around front back lead trail definition).creation dialect name).definitions
      = definitionsIn dialect front
        ++ readDefinition dialect definition :: definitionsIn dialect back := by
  have htrim := trim_around hlead htrail hdefinition
  have hne : Text.trim (lead ++ (definition ++ trail)) ≠ [] := by
    rw [htrim]
    exact hdefinition.ne_nil
  rw [definitions_creation_of_parts (parts_around definition) hne, htrim]

/-- Another definition may stand in the place of one. -/
theorem Creates.around {definition other : List Char} (hlead : ∀ c ∈ lead, Text.isBlank c = true)
    (htrail : ∀ c ∈ trail, Text.isBlank c = true)
    (h : (script.around front back lead trail definition).Creates dialect name)
    (hother : SelfContained ',' other) :
    (script.around front back lead trail other).Creates dialect name where
  heading := h.heading
  options := h.options
  before := h.before
  after := h.after
  parts := by
    have hpart : SelfContained ',' (lead ++ (other ++ trail)) := by
      have hleadSeam : Seamless ',' lead := .of_blank (by decide) hlead
      have htrailSeam : Seamless ',' trail := .of_blank (by decide) htrail
      refine hleadSeam.contained.append (hother.append htrailSeam.contained ?_) ?_
      · intro c _ d hd
        have hblank := htrail d (List.mem_of_mem_head? hd)
        exact Sql.isMark_of_right (Text.ne_of_isBlank hblank (by decide))
          (Text.ne_of_isBlank hblank (by decide))
      · intro c hc d _
        exact Sql.isMark_of_left (hleadSeam.last c hc).1 (hleadSeam.last c hc).2
    intro part hmem
    rcases List.mem_append.mp hmem with hfront | hmem
    · exact h.parts part (List.mem_append_left _ hfront)
    · rcases List.mem_cons.mp hmem with rfl | hback
      · exact hpart
      · exact h.parts part (List.mem_append_right _ (List.mem_cons_of_mem _ hback))

end TableScript

/-- Whether the second definition may stand in the place of the first one: wherever this stands in a
script, what is read stays the same. -/
def Replaces (dialect : Dialect) (definition other : List Char) : Prop :=
  ∀ (script : TableScript) (front back : List (List Char)) (lead trail : List Char)
    (name text text' : String),
    (∀ c ∈ lead, Text.isBlank c = true) → (∀ c ∈ trail, Text.isBlank c = true) →
    (script.around front back lead trail definition).Creates dialect name →
    (script.around front back lead trail definition).Spells text →
    (script.around front back lead trail other).Spells text' →
    parse text' (some dialect.name) = parse text (some dialect.name)

/-- A definition that is read alike may stand in the place of one. -/
theorem replaces_of_readDefinition {dialect : Dialect} {definition other : List Char}
    (hdefinition : Trimmed definition) (hother : Trimmed other) (hcontained : SelfContained ',' other)
    (hread : readDefinition dialect other = readDefinition dialect definition) :
    Replaces dialect definition other := by
  intro script front back lead trail name text text' hlead htrail h htext htext'
  have h' := h.around hlead htrail hcontained
  by_cases hname : name = ""
  · subst hname
    exact (h'.gives_nil htext').trans (h.gives_nil htext).symm
  · have hsame : ((script.around front back lead trail other).creation dialect name).definitions
        = ((script.around front back lead trail definition).creation dialect name).definitions := by
      rw [TableScript.definitions_around hlead htrail hother,
        TableScript.definitions_around hlead htrail hdefinition, hread]
    rw [h.parse_eq htext _ (h.statementTable?_eq hname
        (TableScript.definitionTexts_around_ne_nil hlead htrail hdefinition)),
      h'.parse_eq htext' _ (h'.statementTable?_eq hname
        (TableScript.definitionTexts_around_ne_nil hlead htrail hother)), hsame]
    rfl

section Check

variable {dialect : Dialect} {column : Column} {start gap e : List Char}

theorem seamless_checkText {separator : Char} (hseparator : Text.IsReserved separator)
    (hblank : Text.isBlank separator = false) (hgap : ∀ c ∈ gap, Text.isSeparator c = true)
    (he : Balanced e) (hunmarked : Sql.Unmarked e) : Seamless separator (checkText gap e) := by
  have hspace : Seamless separator [' '] := .of_isSeparator hblank (by decide)
  exact (Seamless.of_isSeparator hblank hgap).append
    ((Seamless.of_not_isReserved hseparator (by decide)).append
      (hspace.append (.parenthesized separator he hunmarked)))

/-- A definition and a check behind it stand for themselves. -/
theorem selfContained_check (hstart : SelfContained ',' start)
    (hgap : ∀ c ∈ gap, Text.isSeparator c = true) (hne : gap ≠ []) (he : Balanced e)
    (hunmarked : Sql.Unmarked e) : SelfContained ',' (start ++ checkText gap e) := by
  refine hstart.append
    (seamless_checkText (by decide) (by decide) hgap he hunmarked).contained fun c _ d hd => ?_
  obtain ⟨first, rest, rfl⟩ := List.exists_cons_of_ne_nil hne
  obtain rfl : first = d := Option.some.inj hd
  have hblank := Text.isBlank_of_isSeparator (hgap first List.mem_cons_self)
  exact Sql.isMark_of_right (Text.ne_of_isBlank hblank (by decide))
    (Text.ne_of_isBlank hblank (by decide))

theorem trimmed_check (hstart : Trimmed start) (gap e : List Char) :
    Trimmed (start ++ checkText gap e) := by
  have hlast : (start ++ checkText gap e).getLast? = some ')' := by
    have hsplit : start ++ checkText gap e
        = (start ++ (gap ++ ("CHECK".toList ++ (' ' :: '(' :: e)))) ++ [')'] := by
      simp [checkText]
    rw [hsplit, List.getLast?_append]
    rfl
  refine ⟨fun hnil => hstart.ne_nil (List.append_eq_nil_iff.mp hnil).1, fun c hc => ?_,
    fun c hc => ?_⟩
  · obtain ⟨first, rest, rfl⟩ := List.exists_cons_of_ne_nil hstart.ne_nil
    exact hstart.first c hc
  · rw [hlast] at hc
    cases hc
    decide

def soleScript (definition : List Char) : TableScript :=
  TableScript.around { head := "CREATE TABLE t ".toList, parts := [] } [] [] [] [] definition

theorem creates_soleScript (dialect : Dialect) {definition : List Char}
    (h : SelfContained ',' definition) : (soleScript definition).Creates dialect "t" where
  heading := by
    have hheading : ∀ dialect, Heading dialect "t" "CREATE TABLE t ".toList := by
      intro dialect
      cases dialect <;> decide +kernel
    exact hheading dialect
  parts := by
    intro part hpart
    rw [List.mem_singleton.mp hpart]
    simpa using h
  options := .nil ';'
  before := .blank (List.forall_mem_nil _)
  after := fun c hc => by cases hc

theorem spells_soleScript {definition : List Char} (h : SelfContained ',' definition) :
    (soleScript definition).Spells (.ofList (soleScript definition).text) := by
  have hhead : Seamless ';' "CREATE TABLE t ".toList := by decide +kernel
  have hall := hhead.append (.parenthesized ';' h.balanced h.unmarked)
  have htext : (soleScript definition).text
      = "CREATE TABLE t ".toList ++ ('(' :: definition ++ [')']) := by
    simp [TableScript.text, TableScript.statement, TableScript.body, soleScript, TableScript.around]
  rw [TableScript.Spells, String.toList_ofList, htext]
  exact Sql.stripComments_eq_self hall.contained.unmarked

theorem creation_soleScript (dialect : Dialect) {definition : List Char} (h : Trimmed definition) :
    (soleScript definition).creation dialect "t" = ⟨"t", [readDefinition dialect definition]⟩ := by
  have hdefinitions := @TableScript.definitions_around
    { head := "CREATE TABLE t ".toList, parts := [] } [] [] [] []
    definition (List.forall_mem_nil _) (List.forall_mem_nil _) h dialect "t"
  exact congrArg (Creation.mk "t") hdefinitions

/-- What may stand in the place of a column is read as this column. -/
theorem Replaces.readDefinition_eq {definition other : List Char}
    (hreplaces : Replaces dialect definition other)
    (h : SelfContained ',' definition) (htrimmed : Trimmed definition)
    (hother : SelfContained ',' other) (htrimmed' : Trimmed other)
    (hread : readDefinition dialect definition = .column column)
    (hnamed : column.foreignTable ≠ some "") :
    readDefinition dialect other = .column column := by
  have hparse := hreplaces _ [] [] [] [] "t" _ _ (List.forall_mem_nil _) (List.forall_mem_nil _)
    (creates_soleScript dialect h) (spells_soleScript h) (spells_soleScript hother)
  have halone : ∀ text, (soleScript text).Alone dialect := fun text => ⟨rfl, rfl⟩
  have htexts : ∀ {text}, Trimmed text → (soleScript text).definitionTexts ≠ [] := fun htext =>
    TableScript.definitionTexts_around_ne_nil (List.forall_mem_nil _) (List.forall_mem_nil _) htext
  have hcreation := creation_soleScript dialect htrimmed
  rw [hread] at hcreation
  have hcolumns : ((soleScript definition).creation dialect "t").Named := by
    rw [hcreation]
    intro found hfound
    rw [List.mem_singleton.mp hfound]
    exact hnamed
  have hfound := ((creates_soleScript dialect h).exists_parse_iff (spells_soleScript h) (halone _)
    (by decide) (htexts htrimmed) (· = Creation.table ⟨"t", [.column column]⟩)).mpr
    ⟨hcolumns, congrArg Creation.table hcreation⟩
  rw [← hparse, (creates_soleScript dialect hother).exists_parse_iff (spells_soleScript hother)
    (halone _) (by decide) (htexts htrimmed'), creation_soleScript dialect htrimmed'] at hfound
  have htable := congrArg Table.columns hfound.2
  cases hdefinition : readDefinition dialect other with
  | column found =>
      rw [hdefinition] at htable
      exact congrArg Definition.column (List.singleton_inj.mp htable)
  | _ =>
      rw [hdefinition] at htable
      cases htable

/-- A column with a check behind it is read in every script as it is without, exactly if the check
adds nothing to it: the words of its expression count as the column's own. -/
theorem check_replaces_iff (hstart : SelfContained ',' start) (htrimmed : Trimmed start)
    (hread : readDefinition dialect start = .column column) (hnamed : column.foreignTable ≠ some "")
    (hgap : ∀ c ∈ gap, Text.isSeparator c = true) (hne : gap ≠ []) (he : Balanced e)
    (hunmarked : Sql.Unmarked e) :
    Replaces dialect start (start ++ checkText gap e) ↔ Unnoticed dialect column start e := by
  have hcheck := selfContained_check hstart hgap hne he hunmarked
  have htrimmed' := trimmed_check htrimmed gap e
  rw [← readDefinition_check_iff hstart.balanced hread hgap hne he]
  constructor
  · intro hreplaces
    exact hreplaces.readDefinition_eq hstart htrimmed hcheck htrimmed' hread hnamed
  · intro hsame
    exact replaces_of_readDefinition htrimmed htrimmed' hcheck (hsame.trans hread.symm)

end Check

theorem check_replaces_required :
    (SelfContained ',' "a INT NOT NULL DEFAULT 0".toList ∧ Trimmed "a INT NOT NULL DEFAULT 0".toList ∧
      readDefinition .sqlite "a INT NOT NULL DEFAULT 0".toList
        = .column { name := "a", type := "INT", isNullable := false, defaultValue := some "0" } ∧
      Balanced "a IS NOT NULL AND a > 0".toList ∧ Sql.Unmarked "a IS NOT NULL AND a > 0".toList) ∧
    (Replaces .sqlite "a INT NOT NULL DEFAULT 0".toList
        ("a INT NOT NULL DEFAULT 0".toList ++ checkText [' '] "a IS NOT NULL AND a > 0".toList) ↔
      Unnoticed .sqlite
        { name := "a", type := "INT", isNullable := false, defaultValue := some "0" }
        "a INT NOT NULL DEFAULT 0".toList "a IS NOT NULL AND a > 0".toList) := by
  have hstart : SelfContained ',' "a INT NOT NULL DEFAULT 0".toList := by decide +kernel
  have htrimmed : Trimmed "a INT NOT NULL DEFAULT 0".toList := ⟨by decide, by decide, by decide⟩
  have hread : readDefinition .sqlite "a INT NOT NULL DEFAULT 0".toList
      = .column { name := "a", type := "INT", isNullable := false, defaultValue := some "0" } := by
    decide +kernel
  have he : Balanced "a IS NOT NULL AND a > 0".toList := by decide +kernel
  have hunmarked : Sql.Unmarked "a IS NOT NULL AND a > 0".toList := by decide +kernel
  exact ⟨⟨hstart, htrimmed, hread, he, hunmarked⟩,
    check_replaces_iff hstart htrimmed hread (by decide) (by decide) (by decide) he hunmarked⟩

/-- A check that a value is present turns a column that admits none into one that requires it. -/
theorem check_replaces_nullable :
    Balanced "a IS NOT NULL".toList ∧ Sql.Unmarked "a IS NOT NULL".toList ∧
      parse "CREATE TABLE t (a INT)" (some "sqlite")
        = .ok [{ name := "t", columns := [{ name := "a", type := "INT" }] }] ∧
      parse "CREATE TABLE t (a INT CHECK (a IS NOT NULL))" (some "sqlite")
        = .ok [{ name := "t", columns := [{ name := "a", type := "INT", isNullable := false }] }] := by
  refine ⟨?_, ?_, ?_, ?_⟩ <;> decide +kernel

end RelSchema.Ddl
