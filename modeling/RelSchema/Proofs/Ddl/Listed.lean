import RelSchema.Proofs.Ddl.Clause
import RelSchema.Proofs.Sql.Sequence
import RelSchema.Proofs.Text.Cut

/-!
# Names listed in a text

The commas of a list are no tokens: one that stands in code is a part of the bare word around it, and
a word is divided at its commas afterwards. So a comma parts the names in front of it from those
behind it wherever it stands between balanced texts, and blanks beside it change nothing. Text in
parentheses lists no names.
-/

namespace RelSchema.Ddl

open Sql (Token Level Balanced isWordPart isQuote quotes wordNames isBreak_closing)
open Sql.Pending (wordToken runToken parenToken)
open Text (openQuote)

section Sequence

variable (dialect : Dialect)

theorem tokensAt_append {a b : List Char} (ha : openQuote quotes none a = none)
    (hb : ∀ c ∈ b.head?, isQuote c = false ∧ isWordPart c = false) (position : Nat) :
    tokensAt dialect position (a ++ b)
      = tokensAt dialect position a ++ tokensAt dialect (position + a.length) b := by
  rw [tokensAt, Sql.tokensFrom_append ha hb, List.map_append]
  rfl

theorem nesting?_map_readToken (depth : Nat) (tokens : List Token) :
    Sql.nesting? depth (tokens.map (readToken dialect)) = Sql.nesting? depth tokens := by
  apply Sql.nesting?_map
  · exact fun token => kind_readToken_iff dialect (by decide) (by decide)
  · exact fun token => kind_readToken_iff dialect (by decide) (by decide)

theorem nesting?_tokensAt {text : List Char} (h : Balanced text) (depth position : Nat) :
    Sql.nesting? depth (tokensAt dialect position text) = some depth := by
  rw [tokensAt, nesting?_map_readToken, h.nesting?_eq]

theorem group?_parenthesized (position : Nat) {gap inner : List Char}
    (hgap : ∀ c ∈ gap, Text.isSeparator c = true) (hinner : Balanced inner) (rest : List Char) :
    Sql.group? (tokensAt dialect position (gap ++ ('(' :: (inner ++ ')' :: rest))))
      = some ⟨tokensAt dialect (position + gap.length + 1) inner,
          parenToken .closing ')' (position + gap.length + 1 + inner.length),
          tokensAt dialect (position + gap.length + 1 + inner.length + 1) rest⟩ := by
  have hclose : Sql.groupFrom? 0 (tokensAt dialect (position + gap.length + 1 + inner.length)
      (')' :: rest)) = some ⟨[],
        parenToken .closing ')' (position + gap.length + 1 + inner.length),
        tokensAt dialect (position + gap.length + 1 + inner.length + 1) rest⟩ := by
    rw [tokensAt_closing]
    rfl
  rw [tokensAt_gap dialect position hgap, tokensAt_opening, Sql.group?_opening rfl,
    tokensAt_append dialect hinner.openQuote_eq (isBreak_closing rest),
    Sql.groupFrom?_append (nesting?_tokensAt dialect hinner 0 _), hclose]
  simp

end Sequence

/-- The names between the commas of a bare word. -/
def partNames (w : List Char) : List String :=
  wordNames (.ofList w)

theorem partNames_eq (w : List Char) :
    partNames w = ((Text.splitWhere (· == ',') w).filter fun part => !(Text.trim part).isEmpty).map
      fun part => Naming.unquoteIdentifier (.ofList part) := by
  rw [partNames, wordNames, String.toList_ofList]
  rfl

theorem partNames_append (a b : List Char) :
    partNames (a ++ ',' :: b) = partNames a ++ partNames b := by
  have hparts : Text.splitWhere (· == ',') (a ++ ',' :: b)
      = Text.splitWhere (· == ',') a ++ Text.splitWhere (· == ',') b :=
    Text.splitWhere_append (p := (· == ',')) rfl a b
  rw [partNames_eq, partNames_eq, partNames_eq, hparts, List.filter_append, List.map_append]

theorem partNames_of_not_mem {w : List Char} (hw : ',' ∉ w) :
    partNames w = if Text.trim w = [] then [] else [Naming.unquoteIdentifier (.ofList w)] := by
  have hparts : Text.splitWhere (· == ',') w = [w] := by
    refine Text.splitWhere_of_all fun c hc => beq_eq_false_iff_ne.mpr ?_
    rintro rfl
    exact hw hc
  rw [partNames_eq, hparts]
  by_cases htrim : Text.trim w = []
  · rw [if_pos htrim]
    simp [htrim]
  · rw [if_neg htrim]
    simp [htrim]

theorem partNames_of_blank {before w after : List Char} (hbefore : ∀ c ∈ before, Text.isBlank c = true)
    (hafter : ∀ c ∈ after, Text.isBlank c = true) :
    partNames (before ++ w ++ after) = partNames w := by
  induction hlength : w.length using Nat.strong_induction_on generalizing before w after with
  | _ n ih =>
      by_cases hcomma : ',' ∈ w
      · obtain ⟨a, b, rfl⟩ := List.append_of_mem hcomma
        have hfront := ih a.length (by rw [← hlength]; simp) hbefore (List.forall_mem_nil _) rfl
        have hback := ih b.length (by rw [← hlength]; simp; omega) (List.forall_mem_nil _) hafter rfl
        rw [List.append_nil] at hfront
        have hsplit : before ++ (a ++ ',' :: b) ++ after = (before ++ a) ++ ',' :: (b ++ after) := by
          simp
        rw [hsplit, partNames_append, partNames_append, hfront]
        exact congrArg (partNames a ++ ·) hback
      · have hcomma' : ',' ∉ before ++ w ++ after := by
          have hblank : Text.isBlank ',' = false := by decide
          intro hmem
          rcases List.mem_append.mp hmem with hmem | hmem
          · rcases List.mem_append.mp hmem with hmem | hmem
            · exact Text.ne_of_isBlank (hbefore _ hmem) hblank rfl
            · exact hcomma hmem
          · exact Text.ne_of_isBlank (hafter _ hmem) hblank rfl
        have htrim : Text.trim (before ++ w ++ after) = Text.trim w :=
          Text.trim_of_blank hbefore hafter
        rw [partNames_of_not_mem hcomma, partNames_of_not_mem hcomma', htrim,
          Naming.unquoteIdentifier, Naming.unquoteIdentifier, String.toList_ofList,
          String.toList_ofList, htrim]

def listed (dialect : Dialect) (text : List Char) : List String :=
  Sql.namesFrom 0 (tokens dialect text)

section Listed

variable (dialect : Dialect)

theorem namesFrom_tokensAt (position : Nat) (text : List Char) :
    Sql.namesFrom 0 (tokensAt dialect position text) = listed dialect text := by
  rw [tokensAt_eq_map_shift, (Token.keeps_shift position).namesFrom]
  rfl

@[simp]
theorem listed_nil : listed dialect [] = [] := rfl

theorem listedNames_parenthesized (position : Nat) {gap inner : List Char}
    (hgap : ∀ c ∈ gap, Text.isSeparator c = true) (hinner : Balanced inner) (rest : List Char) :
    Sql.listedNames (tokensAt dialect position (gap ++ ('(' :: (inner ++ ')' :: rest))))
      = listed dialect inner := by
  rw [Sql.listedNames, group?_parenthesized dialect position hgap hinner, Option.map_some,
    Option.getD_some, namesFrom_tokensAt]

theorem listed_append {a b : List Char} (ha : Balanced a)
    (hb : ∀ c ∈ b.head?, isQuote c = false ∧ isWordPart c = false) :
    listed dialect (a ++ b) = listed dialect a ++ listed dialect b := by
  rw [listed, tokens_eq_tokensAt, tokensAt_append dialect ha.openQuote_eq hb,
    Sql.namesFrom_append (nesting?_tokensAt dialect ha 0 0), namesFrom_tokensAt, namesFrom_tokensAt]

theorem listed_gap {gap : List Char} (hgap : ∀ c ∈ gap, Text.isSeparator c = true)
    (rest : List Char) : listed dialect (gap ++ rest) = listed dialect rest := by
  rw [listed, tokens_eq_tokensAt, tokensAt_gap dialect 0 hgap, namesFrom_tokensAt]

theorem listed_word {w : List Char} (hw : ∀ c ∈ w, isWordPart c = true) (rest : List Char) :
    listed dialect (w ++ rest)
      = partNames (w ++ rest.takeWhile isWordPart)
        ++ listed dialect (rest.dropWhile isWordPart) := by
  have hsplit : w ++ rest
      = (w ++ rest.takeWhile isWordPart) ++ rest.dropWhile isWordPart := by
    rw [List.append_assoc, List.takeWhile_append_dropWhile]
  have hword : ∀ c ∈ w ++ rest.takeWhile isWordPart, isWordPart c = true := by
    intro c hc
    rcases List.mem_append.mp hc with hc | hc
    · exact hw c hc
    · exact List.mem_takeWhile_imp hc
  have hend : ∀ c ∈ (rest.dropWhile isWordPart).head?, isWordPart c = false := by
    intro c hc
    have hnot := List.head?_dropWhile_not isWordPart rest
    rw [hc] at hnot
    simpa using hnot
  rw [hsplit]
  by_cases hne : w ++ rest.takeWhile isWordPart = []
  · rw [hne]
    rfl
  · rw [listed, tokens_eq_tokensAt, tokensAt_word dialect 0 hne hword hend,
      Sql.namesFrom_other Sql.TokenKind.noConfusion Sql.TokenKind.noConfusion, namesFrom_tokensAt,
      if_pos rfl, Sql.Token.names, value_wordToken]
    rfl

/-- A balanced text ends in a word, possibly an empty one, that a text behind it may go on with; in
front of this word, the names are the same whatever follows. -/
theorem exists_listed_append {a : List Char} (ha : Balanced a) :
    ∃ front w, a = front ++ w ∧ (∀ c ∈ w, isWordPart c = true) ∧
      ∀ rest, (∀ c ∈ rest.head?, isQuote c = false) →
        listed dialect (front ++ rest) = listed dialect front ++ listed dialect rest := by
  obtain ⟨front, w, rfl, hfront, hw, happend⟩ := ha.exists_tokensFrom_append
  refine ⟨front, w, rfl, hw, fun rest hrest => ?_⟩
  have htokens : tokensAt dialect 0 (front ++ rest)
      = tokensAt dialect 0 front ++ tokensAt dialect (0 + front.length) rest := by
    rw [tokensAt, happend 0 rest hrest, List.map_append]
    rfl
  rw [listed, tokens_eq_tokensAt, htokens, Sql.namesFrom_append (nesting?_tokensAt dialect hfront 0 0),
    namesFrom_tokensAt, namesFrom_tokensAt]

theorem head?_word_append {w rest : List Char} (hw : ∀ c ∈ w, isWordPart c = true)
    (hrest : ∀ c ∈ rest.head?, isQuote c = false) :
    ∀ c ∈ (w ++ rest).head?, isQuote c = false :=
  head?_append_of (fun c hc => (Sql.isWordPart_iff.mp (hw c (List.mem_of_mem_head? hc))).1) hrest

theorem listed_comma {a : List Char} (ha : Balanced a) (b : List Char) :
    listed dialect (a ++ ',' :: b) = listed dialect a ++ listed dialect b := by
  obtain ⟨front, w, rfl, hw, hfront⟩ := exists_listed_append dialect ha
  have hcomma : ∀ c ∈ (',' :: b).head?, isQuote c = false := by
    intro c hc
    cases hc
    decide
  have hwComma : ∀ c ∈ w ++ [','], isWordPart c = true := by
    intro c hc
    rcases List.mem_append.mp hc with hc | hc
    · exact hw c hc
    · rw [List.mem_singleton.mp hc]
      decide
  have hword : listed dialect w = partNames w := by
    simpa using listed_word dialect hw []
  have hb : listed dialect b
      = partNames (b.takeWhile isWordPart) ++ listed dialect (b.dropWhile isWordPart) := by
    simpa using listed_word dialect (List.forall_mem_nil _) b
  calc listed dialect (front ++ w ++ ',' :: b)
      = listed dialect front ++ listed dialect (w ++ ',' :: b) := by
        rw [List.append_assoc, hfront _ (head?_word_append hw hcomma)]
    _ = listed dialect front ++ listed dialect ((w ++ [',']) ++ b) := by simp
    _ = listed dialect front ++ (partNames w ++ listed dialect b) := by
        rw [listed_word dialect hwComma, List.append_assoc w, List.singleton_append,
          partNames_append, List.append_assoc, hb]
    _ = listed dialect (front ++ w) ++ listed dialect b := by
        rw [hfront w (by simpa using @head?_word_append w [] hw (by simp)), hword,
          List.append_assoc]

theorem isWordPart_of_isBlank {c : Char} (hblank : Text.isBlank c = true)
    (hseparator : Text.isSeparator c = false) : isWordPart c = true :=
  Sql.isWordPart_iff.mpr ⟨Sql.not_isQuote_of_isBlank hblank,
    Text.ne_of_isBlank hblank (by decide), Text.ne_of_isBlank hblank (by decide), hseparator⟩

/-- A blank in front of a text changes nothing. One that separates no tokens is a part of the word
behind it, whose names are trimmed. -/
theorem listed_blank_cons {c : Char} (hc : Text.isBlank c = true) (rest : List Char) :
    listed dialect (c :: rest) = listed dialect rest := by
  cases hseparator : Text.isSeparator c with
  | true =>
      have hgap : ∀ d ∈ [c], Text.isSeparator d = true := by simpa using hseparator
      exact listed_gap dialect hgap rest
  | false =>
      have hword : ∀ d ∈ [c], isWordPart d = true := by
        simpa using isWordPart_of_isBlank hc hseparator
      have hnames : partNames ([c] ++ rest.takeWhile isWordPart)
          = partNames (rest.takeWhile isWordPart) := by
        simpa using @partNames_of_blank [c] (rest.takeWhile isWordPart) [] (by simpa using hc)
          (List.forall_mem_nil _)
      have hrest : listed dialect rest
          = partNames (rest.takeWhile isWordPart) ++ listed dialect (rest.dropWhile isWordPart) := by
        simpa using listed_word dialect (List.forall_mem_nil _) rest
      rw [← List.singleton_append, listed_word dialect hword, hnames, hrest]

theorem listed_append_blank {a : List Char} (ha : Balanced a) {c : Char}
    (hc : Text.isBlank c = true) : listed dialect (a ++ [c]) = listed dialect a := by
  have hquote : isQuote c = false := Sql.not_isQuote_of_isBlank hc
  cases hseparator : Text.isSeparator c with
  | true =>
      have hbreak : ∀ d ∈ [c].head?, isQuote d = false ∧ isWordPart d = false := by
        intro d hd
        cases hd
        simp [isWordPart, hseparator, hquote]
      rw [listed_append dialect ha hbreak, listed_blank_cons dialect hc, listed_nil, List.append_nil]
  | false =>
      obtain ⟨front, w, rfl, hw, hfront⟩ := exists_listed_append dialect ha
      have hwc : ∀ d ∈ w ++ [c], isWordPart d = true := by
        intro d hd
        rcases List.mem_append.mp hd with hd | hd
        · exact hw d hd
        · rw [List.mem_singleton.mp hd]
          exact isWordPart_of_isBlank hc hseparator
      have hnames : partNames (w ++ [c]) = partNames w :=
        @partNames_of_blank [] w [c] (List.forall_mem_nil _) (by simpa using hc)
      have hword : ∀ w, (∀ d ∈ w, isWordPart d = true) → listed dialect w = partNames w := by
        intro w hw
        simpa using listed_word dialect hw []
      have hhead : ∀ w : List Char, (∀ d ∈ w, isWordPart d = true) →
          ∀ d ∈ w.head?, isQuote d = false :=
        fun w hw d hd => (Sql.isWordPart_iff.mp (hw d (List.mem_of_mem_head? hd))).1
      rw [List.append_assoc, hfront _ (hhead _ hwc), hfront _ (hhead _ hw), hword _ hwc, hword _ hw,
        hnames]

/-- Blanks around a balanced text change nothing. -/
theorem listed_of_blank {before a after : List Char} (hbefore : ∀ c ∈ before, Text.isBlank c = true)
    (ha : Balanced a) (hafter : ∀ c ∈ after, Text.isBlank c = true) :
    listed dialect (before ++ (a ++ after)) = listed dialect a := by
  induction before with
  | cons c before ih =>
      rw [List.cons_append, listed_blank_cons dialect (hbefore c List.mem_cons_self)]
      exact ih fun d hd => hbefore d (List.mem_cons_of_mem c hd)
  | nil =>
      rw [List.nil_append]
      induction after using List.reverseRecOn with
      | nil => rw [List.append_nil]
      | append_singleton after c ih =>
          have hrest : ∀ d ∈ after, Text.isBlank d = true := fun d hd => hafter d (by simp [hd])
          have hblank : Sql.SelfContained ',' after := .of_blank (by decide) hrest
          rw [← List.append_assoc, listed_append_blank dialect (ha.append hblank.balanced)
            (hafter c (by simp)), ih hrest]

theorem listed_intercalate {entries : List (List Char)} (hentries : ∀ entry ∈ entries, Balanced entry) :
    listed dialect ([','].intercalate entries) = entries.flatMap (listed dialect) := by
  induction entries with
  | nil => rfl
  | cons entry rest ih =>
      have hrest := ih fun other hother => hentries other (List.mem_cons_of_mem entry hother)
      cases rest with
      | nil => simp
      | cons next rest =>
          rw [List.intercalate_cons_cons, List.append_assoc, List.singleton_append,
            listed_comma dialect (hentries entry List.mem_cons_self), hrest]
          exact List.flatMap_cons.symm

theorem listed_name (name : List Char) {rest : List Char}
    (hrest : ∀ c ∈ rest.head?, c ≠ dialect.quoteChar) :
    listed dialect (Naming.enclosed dialect.quoteChar name ++ rest)
      = .ofList name :: listed dialect rest := by
  have hkind := kind_runToken_quoteChar dialect 0 name.reverse
    (0 + (Naming.enclosed dialect.quoteChar name).length)
  rw [listed, tokens_eq_tokensAt, tokensAt_name dialect 0 name hrest,
    Sql.namesFrom_other (by rw [hkind]; decide) (by rw [hkind]; decide), namesFrom_tokensAt,
    if_pos rfl, Sql.Token.names, hkind]
  simp [runToken]

theorem listed_parenthesized {inner : List Char} (hinner : Balanced inner) (rest : List Char) :
    listed dialect ('(' :: (inner ++ ')' :: rest)) = listed dialect rest := by
  have hnone : Sql.namesFrom 1 (tokensAt dialect 1 inner) = [] :=
    Sql.namesFrom_succ (nesting?_tokensAt dialect hinner 0 1)
  have hnames : Sql.namesFrom 1 (tokensAt dialect (0 + 1) (inner ++ ')' :: rest))
      = listed dialect rest := by
    rw [tokensAt_append dialect hinner.openQuote_eq (isBreak_closing rest),
      Sql.namesFrom_append (nesting?_tokensAt dialect hinner 1 _), Nat.zero_add, hnone,
      tokensAt_closing, Sql.namesFrom_closing rfl, Nat.sub_self, namesFrom_tokensAt]
    rfl
  rw [listed, tokens_eq_tokensAt, tokensAt_opening, Sql.namesFrom_opening rfl]
  exact hnames

end Listed

end RelSchema.Ddl
