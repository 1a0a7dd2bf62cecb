import RelSchema.Proofs.Sql.Part

/-!
# Tokens of texts in a row

The tokens of two texts in a row are those of the first one and then those of the second one, if the
first one leaves no quote open and no word goes on from it into the second one. What holds behind a
lexeme and carries over to the text in front of it holds of every text, which is how each fact here
is proved. The tokens of a text also open and close the parentheses that the text does, so the scans
over tokens pass over the tokens of a text as one piece.
-/

namespace RelSchema.Sql

open Pending
open Text (openQuote)

def Token.placed (start length : Nat) (token : Token) : Token :=
  { token with start, stop := start + length }

theorem Lexeme.tokensFrom_eq {token : Token} {lexeme rest : List Char}
    (h : Lexeme token lexeme rest) (position : Nat) :
    tokensFrom position .nothing (lexeme ++ rest)
      = token.placed position lexeme.length
          :: tokensFrom (position + lexeme.length) .nothing rest := by
  cases h with
  | word hne hw hend => exact tokensFrom_word hne hw hend position
  | opening => rfl
  | closing => rfl
  | quoted hquote hend => exact tokensFrom_enclosed hquote _ hend position
  | @cut quote start s hquote =>
      have hstart : tokensFrom position .nothing (quote :: Naming.doubled quote s ++ [])
          = tokensFrom (position + 1) (.run quote position []) (Naming.doubled quote s ++ []) := by
        simp [tokensFrom, Pending.read, readCode, hquote, Pending.tokens]
      have hlength : position + 1 + (Naming.doubled quote s).length
          = position + (quote :: Naming.doubled quote s).length := by
        rw [List.length_cons]
        omega
      rw [hstart, tokensFrom_doubled, hlength, List.append_nil]
      rfl

/-- What holds of gaps, and in front of each text of which it holds, holds of every text. -/
theorem lexeme_induction {motive : List Char → Prop}
    (gap : ∀ gap, (∀ c ∈ gap, Text.isSeparator c = true) → motive gap)
    (lexeme : ∀ gap token lexeme rest, (∀ c ∈ gap, Text.isSeparator c = true) →
      Lexeme token lexeme rest → motive rest → motive (gap ++ (lexeme ++ rest)))
    (text : List Char) : motive text := by
  generalize hposition : 0 = position
  generalize htokens : tokensFrom position .nothing text = tokens
  clear hposition
  induction tokens generalizing position text with
  | nil => exact gap text (isSeparator_of_tokensFrom_eq_nil htokens)
  | cons token tokens ih =>
      obtain ⟨front, word, rest, rfl, hfront, hlexeme, -, -, hrest⟩ := exists_lexeme htokens
      exact lexeme front token word rest hfront hlexeme (ih rest token.stop hrest)

theorem tokensFrom_lexeme {gap : List Char} (hgap : ∀ c ∈ gap, Text.isSeparator c = true)
    {token : Token} {lexeme rest : List Char} (h : Lexeme token lexeme rest) (position : Nat) :
    tokensFrom position .nothing (gap ++ (lexeme ++ rest))
      = token.placed (position + gap.length) lexeme.length
          :: tokensFrom (position + gap.length + lexeme.length) .nothing rest := by
  rw [tokensFrom_gap hgap, h.tokensFrom_eq]

theorem openQuote_gap {gap : List Char} (hgap : ∀ c ∈ gap, Text.isSeparator c = true) :
    openQuote quotes none gap = none :=
  (Balanced.of_isSeparator hgap).openQuote_eq

theorem Lexeme.openQuote_of_append {token : Token} {lexeme rest : List Char}
    (h : Lexeme token lexeme rest) (hclosed : openQuote quotes none (lexeme ++ rest) = none) :
    openQuote quotes none lexeme = none ∧ openQuote quotes none rest = none := by
  rcases h.openQuote_eq with hlexeme | rfl
  · rw [Text.openQuote_append, hlexeme] at hclosed
    exact ⟨hlexeme, hclosed⟩
  · rw [List.append_nil] at hclosed
    exact ⟨hclosed, rfl⟩

theorem openQuote_cut {quote : Char} (hquote : isQuote quote = true) (s : List Char) :
    openQuote quotes none (quote :: Naming.doubled quote s) = some quote := by
  have hopen : Level.after? {} (quote :: Naming.doubled quote s) = some ⟨some quote, 0⟩ := by
    rw [Level.after?_cons, Level.next?_quote hquote, Option.bind_some,
      Level.after?_doubled hquote]
  exact Level.quote?_of_after? hopen

/-- A lexeme that leaves no quote open is told from the first character behind it. -/
theorem Lexeme.of_head? {token : Token} {lexeme rest : List Char} (h : Lexeme token lexeme rest)
    (hclosed : openQuote quotes none lexeme = none) {other : List Char}
    (hhead : other.head? = rest.head?) : Lexeme token lexeme other := by
  cases h with
  | word hne hw hend => exact .word hne hw (by rwa [hhead])
  | opening => exact .opening
  | closing => exact .closing
  | quoted hquote hend => exact .quoted hquote (by rwa [hhead])
  | cut hquote =>
      rw [openQuote_cut hquote] at hclosed
      cases hclosed

theorem tokensFrom_gap_append {gap : List Char} (hgap : ∀ c ∈ gap, Text.isSeparator c = true)
    (position : Nat) (b : List Char) :
    tokensFrom position .nothing (gap ++ b)
      = tokensFrom position .nothing gap ++ tokensFrom (position + gap.length) .nothing b := by
  have hnil := tokensFrom_gap hgap position []
  rw [List.append_nil] at hnil
  rw [tokensFrom_gap hgap, hnil]
  rfl

/-- A lexeme in front of a word may stand in front of something else than this word, unless it is a
word itself and the text ends there. -/
theorem Lexeme.of_word_behind {token : Token} {lexeme w b : List Char} (h : Lexeme token lexeme w)
    (hclosed : openQuote quotes none lexeme = none) (hw : ∀ c ∈ w, isWordPart c = true)
    (hlast : ¬ (w = [] ∧ ∀ c ∈ lexeme, isWordPart c = true))
    (hb : ∀ c ∈ b.head?, isQuote c = false) : Lexeme token lexeme b := by
  cases h with
  | word hne hlexeme hend =>
      refine absurd ⟨?_, hlexeme⟩ hlast
      cases w with
      | nil => rfl
      | cons c w =>
          have hc := hend c rfl
          rw [hw c List.mem_cons_self] at hc
          cases hc
  | opening => exact .opening
  | closing => exact .closing
  | quoted hquote hend =>
      refine .quoted hquote fun c hc hsame => ?_
      rw [hsame] at hc
      rw [hb _ hc] at hquote
      cases hquote
  | cut hquote =>
      rw [openQuote_cut hquote] at hclosed
      cases hclosed

/-- A text that leaves no quote open ends in a word, possibly an empty one, that a text behind it
may go on with; in front of this word, the tokens are the same whatever follows. -/
theorem exists_tokensFrom_append {a : List Char} (ha : openQuote quotes none a = none) :
    ∃ front w, a = front ++ w ∧ openQuote quotes none front = none ∧
      (∀ c ∈ w, isWordPart c = true) ∧ ∀ position b, (∀ c ∈ b.head?, isQuote c = false) →
        tokensFrom position .nothing (front ++ b)
          = tokensFrom position .nothing front
            ++ tokensFrom (position + front.length) .nothing b := by
  induction a using lexeme_induction with
  | gap gap hgap =>
      exact ⟨gap, [], (List.append_nil gap).symm, openQuote_gap hgap, List.forall_mem_nil _,
        fun position b _ => tokensFrom_gap_append hgap position b⟩
  | lexeme gap token lexeme rest hgap hlexeme ih =>
      rw [Text.openQuote_append, openQuote_gap hgap] at ha
      obtain ⟨hlexemeClosed, hrestClosed⟩ := hlexeme.openQuote_of_append ha
      by_cases hlast : rest = [] ∧ ∀ c ∈ lexeme, isWordPart c = true
      · obtain ⟨rfl, hw⟩ := hlast
        exact ⟨gap, lexeme, by rw [List.append_nil], openQuote_gap hgap, hw,
          fun position b _ => tokensFrom_gap_append hgap position b⟩
      obtain ⟨front, w, rfl, hfrontClosed, hw, happend⟩ := ih hrestClosed
      refine ⟨gap ++ (lexeme ++ front), w, by simp, ?_, hw, fun position b hb => ?_⟩
      · rw [Text.openQuote_append, Text.openQuote_append, openQuote_gap hgap, hlexemeClosed,
          hfrontClosed]
      -- the lexeme ends in front of `front ++ b` as it does in front of `front ++ w`
      have hends : ∀ b : List Char, (∀ c ∈ b.head?, isQuote c = false) →
          Lexeme token lexeme (front ++ b) := by
        intro b hb
        cases front with
        | cons c front => exact hlexeme.of_head? hlexemeClosed rfl
        | nil => exact hlexeme.of_word_behind hlexemeClosed hw hlast hb
      have hfront := hends [] (by simp)
      rw [List.append_nil] at hfront
      rw [List.append_assoc, List.append_assoc, tokensFrom_lexeme hgap (hends b hb),
        tokensFrom_lexeme hgap hfront, happend _ b hb]
      simp only [List.cons_append, List.length_append, Nat.add_assoc]

theorem Balanced.exists_tokensFrom_append {a : List Char} (ha : Balanced a) :
    ∃ front w, a = front ++ w ∧ Balanced front ∧ (∀ c ∈ w, isWordPart c = true) ∧
      ∀ position b, (∀ c ∈ b.head?, isQuote c = false) →
        tokensFrom position .nothing (front ++ b)
          = tokensFrom position .nothing front
            ++ tokensFrom (position + front.length) .nothing b := by
  obtain ⟨front, w, rfl, hclosed, hw, happend⟩ :=
    RelSchema.Sql.exists_tokensFrom_append ha.openQuote_eq
  refine ⟨front, w, rfl, ?_, hw, happend⟩
  obtain ⟨⟨quote?, depth⟩, hfront, hword⟩ := Level.after?_append_eq_some_iff.mp ha
  obtain rfl : none = quote? := hclosed.symm.trans (Level.quote?_of_after? hfront)
  have hsame := Level.after?_word hw depth
  rw [hsame] at hword
  rw [Balanced, hfront]
  exact hword

theorem isBreak_closing (rest : List Char) :
    ∀ c ∈ (')' :: rest).head?, isQuote c = false ∧ isWordPart c = false := by
  intro c hc
  cases hc
  decide

theorem isBreak_opening (rest : List Char) :
    ∀ c ∈ ('(' :: rest).head?, isQuote c = false ∧ isWordPart c = false := by
  intro c hc
  cases hc
  decide

theorem isBreak_gap {gap rest : List Char} (hgap : ∀ c ∈ gap, Text.isSeparator c = true)
    (hrest : gap = [] → ∀ c ∈ rest.head?, isQuote c = false ∧ isWordPart c = false) :
    ∀ c ∈ (gap ++ rest).head?, isQuote c = false ∧ isWordPart c = false := by
  cases gap with
  | nil => exact hrest rfl
  | cons first others =>
      intro c hc
      cases hc
      have hseparator := hgap _ List.mem_cons_self
      exact ⟨(not_isQuote_of_isSeparator hseparator).1, by simp [isWordPart, hseparator]⟩

/-- The tokens of two texts in a row, where the second one starts in neither a quote nor a part of a
word. -/
theorem tokensFrom_append {a b : List Char} (ha : openQuote quotes none a = none)
    (hb : ∀ c ∈ b.head?, isQuote c = false ∧ isWordPart c = false) (position : Nat) :
    tokensFrom position .nothing (a ++ b)
      = tokensFrom position .nothing a ++ tokensFrom (position + a.length) .nothing b := by
  obtain ⟨front, w, rfl, -, hw, happend⟩ := exists_tokensFrom_append ha
  by_cases hne : w = []
  · rw [hne, List.append_nil]
    exact happend position b fun c hc => (hb c hc).1
  · have hstart : ∀ rest : List Char, ∀ c ∈ (w ++ rest).head?, isQuote c = false := by
      intro rest c hc
      obtain ⟨first, others, rfl⟩ := List.exists_cons_of_ne_nil hne
      cases hc
      exact (isWordPart_iff.mp (hw _ List.mem_cons_self)).1
    have hword := @tokensFrom_word w [] hne hw (by simp) (position + front.length)
    have hboth := tokensFrom_word hne hw (fun c hc => (hb c hc).2) (position + front.length)
    have halone := happend position (w ++ []) (hstart [])
    rw [hword] at halone
    rw [List.append_nil] at halone
    rw [List.append_assoc, happend position (w ++ b) (hstart b), hboth, halone,
      List.length_append, Nat.add_assoc]
    simp [tokensFrom, Pending.tokens]

/-- A token parts a text that leaves no quote open into what is read up to it and what is read
behind it. -/
theorem exists_append_of_tokensFrom {position : Nat} {a : List Char} {before rest : List Token}
    {token : Token} (ha : openQuote quotes none a = none)
    (htokens : tokensFrom position .nothing a = before ++ token :: rest) :
    ∃ front back, a = front ++ back ∧ token.stop = position + front.length ∧
      openQuote quotes none back = none ∧ tokensFrom token.stop .nothing back = rest := by
  induction before generalizing position a with
  | nil =>
      obtain ⟨gap, lexeme, back, rfl, hgap, hlexeme, hstart, hstop, hrest⟩ := exists_lexeme htokens
      rw [Text.openQuote_append, openQuote_gap hgap] at ha
      refine ⟨gap ++ lexeme, back, by simp, ?_, (hlexeme.openQuote_of_append ha).2, hrest⟩
      rw [hstop, hstart, List.length_append, Nat.add_assoc]
  | cons first before ih =>
      obtain ⟨gap, lexeme, back, rfl, hgap, hlexeme, hstart, hstop, hrest⟩ := exists_lexeme htokens
      rw [Text.openQuote_append, openQuote_gap hgap] at ha
      obtain ⟨front, back', rfl, hstop', hclosed, hrest'⟩ :=
        ih (hlexeme.openQuote_of_append ha).2 hrest
      refine ⟨gap ++ (lexeme ++ front), back', by simp, ?_, hclosed, hrest'⟩
      rw [hstop', hstop, hstart]
      simp only [List.length_append, Nat.add_assoc]

theorem exists_gap_of_getLast? {position : Nat} {a : List Char} {last : Token}
    (hlast : (tokensFrom position .nothing a).getLast? = some last) :
    ∃ front gap, a = front ++ gap ∧ last.stop = position + front.length ∧
      ∀ c ∈ gap, Text.isSeparator c = true := by
  generalize htokens : tokensFrom position .nothing a = tokens at hlast
  induction tokens generalizing position a with
  | nil => cases hlast
  | cons token tokens ih =>
      obtain ⟨gap, lexeme, rest, rfl, hgap, hlexeme, hstart, hstop, hrest⟩ := exists_lexeme htokens
      cases tokens with
      | nil =>
          obtain rfl : token = last := Option.some.inj hlast
          refine ⟨gap ++ lexeme, rest, by simp, ?_, isSeparator_of_tokensFrom_eq_nil hrest⟩
          rw [hstop, hstart, List.length_append, Nat.add_assoc]
      | cons next tokens =>
          obtain ⟨front, gap', rfl, hstop', hgap'⟩ := ih hrest hlast
          refine ⟨gap ++ (lexeme ++ front), gap', by simp, ?_, hgap'⟩
          rw [hstop', hstop, hstart]
          simp only [List.length_append, Nat.add_assoc]

/-! ### Nested tokens

Scans over tokens count parentheses. Over the tokens of a text this count is that of the text
itself, so the tokens of a balanced text are passed over as one piece.
-/

/-- The parenthesis depth behind a token; a stray closing parenthesis has none. -/
def Token.nest? (depth : Nat) (token : Token) : Option Nat :=
  match token.kind, depth with
  | .opening, depth => some (depth + 1)
  | .closing, 0 => none
  | .closing, depth + 1 => some depth
  | _, depth => some depth

def nesting? (depth : Nat) (tokens : List Token) : Option Nat :=
  tokens.foldlM Token.nest? depth

theorem nesting?_cons_eq_some_iff {depth last : Nat} {token : Token} {tokens : List Token} :
    nesting? depth (token :: tokens) = some last ↔
      ∃ next, token.nest? depth = some next ∧ nesting? next tokens = some last := by
  rw [nesting?, List.foldlM_cons]
  exact Option.bind_eq_some_iff

theorem Token.nest?_opening {token : Token} (h : token.kind = .opening) (depth : Nat) :
    token.nest? depth = some (depth + 1) := by
  simp only [nest?, h]

theorem Token.nest?_closing {token : Token} (h : token.kind = .closing) (depth : Nat) :
    token.nest? (depth + 1) = some depth := by
  simp only [nest?, h]

theorem Token.nest?_other {token : Token} (hopen : token.kind ≠ .opening)
    (hclose : token.kind ≠ .closing) (depth : Nat) : token.nest? depth = some depth := by
  unfold nest?
  split
  · next h => exact absurd h hopen
  · next h => exact absurd h hclose
  · next h => exact absurd h hclose
  · rfl

/-- A token opens a parenthesis, closes an open one, or leaves the depth as it is. -/
theorem Token.cases_of_nest? {token : Token} {depth next : Nat}
    (h : token.nest? depth = some next) :
    (token.kind = .opening ∧ next = depth + 1) ∨ (token.kind = .closing ∧ depth = next + 1) ∨
      (token.kind ≠ .opening ∧ token.kind ≠ .closing ∧ next = depth) := by
  by_cases hopen : token.kind = .opening
  · rw [nest?_opening hopen] at h
    exact Or.inl ⟨hopen, (Option.some.inj h).symm⟩
  by_cases hclose : token.kind = .closing
  · cases depth with
    | zero =>
        unfold nest? at h
        rw [hclose] at h
        cases h
    | succ depth =>
        rw [nest?_closing hclose] at h
        exact Or.inr (Or.inl ⟨hclose, congrArg (· + 1) (Option.some.inj h)⟩)
  · rw [nest?_other hopen hclose] at h
    exact Or.inr (Or.inr ⟨hopen, hclose, (Option.some.inj h).symm⟩)

/-- The depth behind the tokens of a text is the depth behind the text. -/
theorem nesting?_tokensFrom {depth : Nat} {last : Level} {text : List Char}
    (h : Level.after? ⟨none, depth⟩ text = some last) (position : Nat) :
    nesting? depth (tokensFrom position .nothing text) = some last.depth := by
  induction text using lexeme_induction generalizing depth position with
  | gap gap hgap =>
      have hlevel := Level.after?_gap hgap depth
      have hnil := tokensFrom_gap hgap position []
      rw [List.append_nil] at hnil
      rw [hlevel] at h
      cases h
      rw [hnil]
      rfl
  | lexeme gap token lexeme rest hgap hlexeme ih =>
      have hlevel := Level.after?_gap hgap depth
      rw [Level.after?_append_of_eq hlevel] at h
      rw [tokensFrom_lexeme hgap hlexeme]
      refine nesting?_cons_eq_some_iff.mpr ?_
      rcases hlexeme.after?_cases with ⟨hkind, rfl⟩ | ⟨htoken, rfl⟩ |
        ⟨⟨hopen, hclose⟩, quote?, hquote, hafter⟩
      · exact ⟨depth + 1, Token.nest?_opening hkind depth, ih h _⟩
      · have hkind : token.kind = .closing := by rw [htoken]; rfl
        cases depth with
        | zero => cases h
        | succ depth => exact ⟨depth, Token.nest?_closing hkind depth, ih h _⟩
      · refine ⟨depth, Token.nest?_other hopen hclose depth, ?_⟩
        rw [Level.after?_append_of_eq (hafter depth)] at h
        rcases hquote with rfl | rfl
        · exact ih h _
        · cases h
          rfl

theorem Balanced.nesting?_eq {text : List Char} (h : Balanced text) (depth position : Nat) :
    nesting? depth (tokensFrom position .nothing text) = some depth :=
  nesting?_tokensFrom (h.after?_code depth) position

theorem nesting?_map {f : Token → Token}
    (hopening : ∀ token, (f token).kind = .opening ↔ token.kind = .opening)
    (hclosing : ∀ token, (f token).kind = .closing ↔ token.kind = .closing) (depth : Nat)
    (tokens : List Token) : nesting? depth (tokens.map f) = nesting? depth tokens := by
  have hstep : ∀ depth token, (f token).nest? depth = token.nest? depth := by
    intro depth token
    by_cases hopen : token.kind = .opening
    · rw [Token.nest?_opening hopen, Token.nest?_opening ((hopening token).mpr hopen)]
    by_cases hclose : token.kind = .closing
    · have hclose' := (hclosing token).mpr hclose
      unfold Token.nest?
      rw [hclose, hclose']
    · rw [Token.nest?_other hopen hclose,
        Token.nest?_other (mt (hopening token).mp hopen) (mt (hclosing token).mp hclose)]
  rw [nesting?, nesting?, List.foldlM_map]
  exact congrArg (List.foldlM · depth tokens) (funext fun d => funext fun token => hstep d token)

/-- Tokens that close no parenthesis from outside belong to the group that they stand in. -/
theorem groupFrom?_append {depth last : Nat} {a : List Token} (ha : nesting? depth a = some last)
    (b : List Token) :
    groupFrom? depth (a ++ b)
      = (groupFrom? last b).map fun group => { group with inner := a ++ group.inner } := by
  induction a generalizing depth with
  | nil =>
      cases ha
      exact Option.map_id'.symm
  | cons token a ih =>
      obtain ⟨next, hnext, hrest⟩ := nesting?_cons_eq_some_iff.mp ha
      have hstep : groupFrom? depth (token :: (a ++ b))
          = (groupFrom? next (a ++ b)).map (Group.cons token) := by
        rcases Token.cases_of_nest? hnext with ⟨hopen, rfl⟩ | ⟨hclose, rfl⟩ | ⟨hopen, hclose, rfl⟩
        · exact groupFrom?_opening hopen depth _
        · exact groupFrom?_closing hclose next _
        · exact groupFrom?_other hopen hclose next _
      rw [List.cons_append, hstep, ih hrest, Option.map_map]
      rfl

/-- Behind the parenthesis that closes a group, further tokens only follow it. -/
theorem groupFrom?_append_of_some {depth : Nat} {a : List Token} {group : Group}
    (h : groupFrom? depth a = some group) (b : List Token) :
    groupFrom? depth (a ++ b) = some { group with rest := group.rest ++ b } := by
  induction a generalizing depth group with
  | nil => cases h
  | cons token a ih =>
      have hstep : ∀ next : Nat, (∀ tokens, groupFrom? depth (token :: tokens)
          = (groupFrom? next tokens).map (Group.cons token)) →
          groupFrom? depth (token :: (a ++ b)) = some { group with rest := group.rest ++ b } := by
        intro next hnext
        rw [hnext] at h
        obtain ⟨found, hfound, rfl⟩ := Option.map_eq_some_iff.mp h
        rw [hnext, ih hfound]
        rfl
      by_cases hopen : token.kind = .opening
      · exact hstep (depth + 1) (groupFrom?_opening hopen depth)
      by_cases hclose : token.kind = .closing
      · cases depth with
        | zero =>
            have hends : ∀ tokens, groupFrom? 0 (token :: tokens)
                = some { inner := [], close := token, rest := tokens } := by
              intro tokens
              simp only [groupFrom?, hclose]
            rw [hends] at h
            cases h
            exact hends (a ++ b)
        | succ depth => exact hstep depth (groupFrom?_closing hclose depth)
      · exact hstep depth (groupFrom?_other hopen hclose depth)

theorem group?_append_of_some {a : List Token} {group : Group} (h : group? a = some group)
    (b : List Token) : group? (a ++ b) = some { group with rest := group.rest ++ b } := by
  cases a with
  | nil => cases h
  | cons token a =>
      by_cases hopen : token.kind = .opening
      · rw [group?_opening hopen] at h
        rw [List.cons_append, group?_opening hopen]
        exact groupFrom?_append_of_some h b
      · rw [group?_other hopen] at h
        cases h

theorem namesFrom_opening {token : Token} (h : token.kind = .opening) (depth : Nat)
    (tokens : List Token) : namesFrom depth (token :: tokens) = namesFrom (depth + 1) tokens := by
  simp only [namesFrom, h]

theorem namesFrom_closing {token : Token} (h : token.kind = .closing) (depth : Nat)
    (tokens : List Token) : namesFrom depth (token :: tokens) = namesFrom (depth - 1) tokens := by
  simp only [namesFrom, h]

/-- What a token other than a parenthesis adds to the names outside parentheses. -/
def Token.names (token : Token) : List String :=
  match token.kind with
  | .quotedName => [token.value]
  | .word => wordNames token.value
  | _ => []

theorem namesFrom_other {token : Token} (hopen : token.kind ≠ .opening)
    (hclose : token.kind ≠ .closing) (depth : Nat) (tokens : List Token) :
    namesFrom depth (token :: tokens)
      = (if depth = 0 then token.names else []) ++ namesFrom depth tokens := by
  cases hkind : token.kind with
  | opening => exact absurd hkind hopen
  | closing => exact absurd hkind hclose
  | word | quotedName => simp only [namesFrom, hkind, Token.names, beq_iff_eq]
  | string => simp [namesFrom, hkind, Token.names]

theorem namesFrom_append {depth last : Nat} {a : List Token} (ha : nesting? depth a = some last)
    (b : List Token) : namesFrom depth (a ++ b) = namesFrom depth a ++ namesFrom last b := by
  induction a generalizing depth with
  | nil =>
      cases ha
      rfl
  | cons token a ih =>
      obtain ⟨next, hnext, hrest⟩ := nesting?_cons_eq_some_iff.mp ha
      rw [List.cons_append]
      rcases Token.cases_of_nest? hnext with ⟨hopen, rfl⟩ | ⟨hclose, rfl⟩ | ⟨hopen, hclose, rfl⟩
      · rw [namesFrom_opening hopen, namesFrom_opening hopen, ih hrest]
      · rw [namesFrom_closing hclose, namesFrom_closing hclose, Nat.add_sub_cancel, ih hrest]
      · rw [namesFrom_other hopen hclose, namesFrom_other hopen hclose, ih hrest, List.append_assoc]

/-- Nothing is listed inside a further pair of parentheses. -/
theorem namesFrom_succ {depth last : Nat} {tokens : List Token}
    (h : nesting? depth tokens = some last) : namesFrom (depth + 1) tokens = [] := by
  induction tokens generalizing depth with
  | nil => rfl
  | cons token tokens ih =>
      obtain ⟨next, hnext, hrest⟩ := nesting?_cons_eq_some_iff.mp h
      rcases Token.cases_of_nest? hnext with ⟨hopen, rfl⟩ | ⟨hclose, rfl⟩ | ⟨hopen, hclose, rfl⟩
      · rw [namesFrom_opening hopen, ih hrest]
      · rw [namesFrom_closing hclose, Nat.add_sub_cancel, ih hrest]
      · rw [namesFrom_other hopen hclose, ih hrest, if_neg (Nat.succ_ne_zero next), List.nil_append]

/-- The search for parentheses passes over a text whose tokens open none. -/
theorem findFrom_append_of_flat {a : List Char} (ha : openQuote quotes none a = none) {start : Nat}
    (hflat : ∀ token ∈ tokensFrom start .nothing a, token.kind ≠ .opening) (position : Nat)
    (b : List Char) :
    Brackets.findFrom {} none position (a ++ b)
      = Brackets.findFrom {} none (position + a.length) b := by
  have hcode : '(' ∉ codeOf none a := by
    intro hmem
    obtain ⟨front, back, rfl, hfront⟩ := (mem_codeOf_iff (by decide)).mp hmem
    have hopening : parenToken .opening '(' (start + front.length)
        ∈ tokensFrom start .nothing (front ++ '(' :: back) := by
      rw [tokensFrom_append hfront (isBreak_opening back), tokensFrom_opening]
      exact List.mem_append_right _ List.mem_cons_self
    exact hflat _ hopening rfl
  rw [Brackets.findFrom_append hcode, ha]

end RelSchema.Sql
