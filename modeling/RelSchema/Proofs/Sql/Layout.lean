import RelSchema.Proofs.Sql.Token

/-!
# How tokens lie in a text

The tokens of a text are the lexemes that stand in it one behind the other, with nothing but blanks
in front of them, between them and behind them. `Layout` says so for the rest of a text, and what
the tokens say of the text is read off from it. Main statement: the tokens cover the text, each of
them says what stands at its place, and no two words touch.
-/

namespace RelSchema.Sql

open Pending

/-- Whether the quote at `last` closes the run that the quote at `first` opens: all quotes between
the two are in doubled pairs, and it is not the first one of such a pair. -/
structure Closes (text : List Char) (quote : Char) (first last : Nat) : Prop where
  first_lt : first < last
  getElem?_eq : text[last]? = some quote
  exists_doubled : ∃ s, slice text (first + 1) last = Naming.doubled quote s
  getElem?_succ_ne : text[last + 1]? ≠ some quote

/-- A doubled text has no lone quote. -/
theorem doubled_ne_append {quote : Char} {rest : List Char} (hrest : ∀ c ∈ rest.head?, c ≠ quote)
    (s front : List Char) :
    Naming.doubled quote s ≠ Naming.doubled quote front ++ quote :: rest := by
  have hcons : ∀ c s, Naming.doubled quote (c :: s)
      = c :: if c = quote then quote :: Naming.doubled quote s else Naming.doubled quote s := by
    intro c s
    by_cases hc : c = quote
    · rw [if_pos hc, hc, doubled_cons_self]
    · rw [if_neg hc, doubled_cons_of_ne hc]
  intro h
  induction front generalizing s with
  | nil =>
      cases s with
      | nil => cases h
      | cons c s =>
          rw [hcons] at h
          obtain ⟨rfl, htail⟩ := List.cons.inj h
          rw [if_pos rfl] at htail
          exact hrest c (by rw [← htail]; rfl) rfl
  | cons d front ih =>
      cases s with
      | nil =>
          rw [hcons] at h
          cases h
      | cons c s =>
          rw [hcons, hcons] at h
          obtain ⟨rfl, htail⟩ := List.cons.inj h
          split_ifs at htail
          · exact ih s (List.cons.inj htail).2
          · exact ih s htail

/-- A lone quote stands in one place behind a doubled text. -/
theorem doubled_append_inj {quote : Char} {s s' rest rest' : List Char}
    (hrest : ∀ c ∈ rest.head?, c ≠ quote) (hrest' : ∀ c ∈ rest'.head?, c ≠ quote)
    (h : Naming.doubled quote s ++ quote :: rest = Naming.doubled quote s' ++ quote :: rest') :
    Naming.doubled quote s = Naming.doubled quote s' := by
  have hlone : ∀ {s s' rest rest' : List Char}, (∀ c ∈ rest.head?, c ≠ quote) →
      ∀ more, Naming.doubled quote s' = Naming.doubled quote s ++ more →
        quote :: rest = more ++ quote :: rest' → more = [] := by
    intro s s' rest rest' hrest more hmore htail
    cases more with
    | nil => rfl
    | cons c more =>
        obtain ⟨rfl, rfl⟩ := List.cons.inj htail
        refine absurd hmore (doubled_ne_append (fun c hc => hrest c ?_) s' s)
        cases more with
        | nil => cases hc
        | cons d more => exact hc
  rcases List.append_eq_append_iff.mp h with ⟨more, hmore, htail⟩ | ⟨more, hmore, htail⟩
  · rw [hmore, hlone hrest more hmore htail, List.append_nil]
  · rw [hmore, hlone hrest' more hmore htail, List.append_nil]

theorem closes_iff {text : List Char} {quote : Char} {first last : Nat} :
    Closes text quote first last ↔
      ∃ s rest, text.drop (first + 1) = Naming.doubled quote s ++ quote :: rest ∧
        (∀ c ∈ rest.head?, c ≠ quote) ∧ last = first + 1 + (Naming.doubled quote s).length := by
  constructor
  · rintro ⟨hlt, hquote, ⟨s, hs⟩, hnext⟩
    obtain ⟨k, rfl⟩ : ∃ k, last = first + 1 + k := ⟨last - (first + 1), by omega⟩
    rw [slice, Nat.add_sub_cancel_left] at hs
    rw [← List.getElem?_drop] at hquote
    rw [Nat.add_assoc _ k, ← List.getElem?_drop, ← List.head?_drop] at hnext
    obtain ⟨hk, hget⟩ := List.getElem?_eq_some_iff.mp hquote
    have hsplit : text.drop (first + 1)
        = Naming.doubled quote s ++ quote :: (text.drop (first + 1)).drop (k + 1) := by
      rw [← hs, ← hget, ← List.drop_eq_getElem_cons hk, List.take_append_drop]
    refine ⟨s, _, hsplit, fun c hc heq => hnext (heq ▸ hc), ?_⟩
    rw [← hs, List.length_take, Nat.min_eq_left hk.le]
  · rintro ⟨s, rest, hdrop, hrest, rfl⟩
    have hbehind : ∀ i, text[first + 1 + i]? = (Naming.doubled quote s ++ quote :: rest)[i]? :=
      fun i => by rw [← hdrop, List.getElem?_drop]
    refine ⟨by omega, ?_, ⟨s, ?_⟩, ?_⟩
    · rw [hbehind, List.getElem?_append_right (Nat.le_refl _), Nat.sub_self]
      rfl
    · rw [slice, hdrop, Nat.add_sub_cancel_left, List.take_left]
    · rw [Nat.add_assoc _ _ 1, hbehind, List.getElem?_append_right (Nat.le_add_right _ _),
        Nat.add_sub_cancel_left, List.getElem?_cons_succ, ← List.head?_eq_getElem?]
      exact fun hhead => hrest quote hhead rfl

/-- Whether a token is the run in quotes that starts at its place. It ends at the quote that closes
the run, or with the text if no quote does, and its value is the content, in which a doubled quote
counts as one. -/
structure Token.IsRun (text : List Char) (quote : Char) (token : Token) : Prop where
  isQuote : isQuote quote = true
  quote_eq : token.quote = some quote
  getElem?_eq : text[token.start]? = some quote
  closed : ∀ last, Closes text quote token.start last → token.stop = last + 1 ∧
    token.value.toList
      = Text.replaceAll [quote, quote] [quote] (slice text (token.start + 1) last)
  unclosed : (∀ last, ¬ Closes text quote token.start last) → token.stop = text.length ∧
    token.value.toList
      = Text.replaceAll [quote, quote] [quote] (slice text (token.start + 1) text.length)

section Run

variable {quote : Char} (hquote : isQuote quote = true) (front s : List Char)

include hquote

theorem isRun_enclosed {rest : List Char} (hrest : ∀ c ∈ rest.head?, c ≠ quote) :
    (runToken quote front.length s.reverse
      (front.length + (Naming.enclosed quote s).length)).IsRun
        (front ++ (Naming.enclosed quote s ++ rest)) quote := by
  have hsplit : front ++ (Naming.enclosed quote s ++ rest)
      = front ++ quote :: (Naming.doubled quote s ++ quote :: rest) := by simp [Naming.enclosed]
  have hdrop : (front ++ quote :: (Naming.doubled quote s ++ quote :: rest)).drop (front.length + 1)
      = Naming.doubled quote s ++ quote :: rest := List.drop_length_add_append ..
  rw [hsplit]
  refine ⟨hquote, rfl, by simp [runToken], fun last hlast => ?_, fun hnone => ?_⟩
  · obtain ⟨s', rest', hdrop', hrest', rfl⟩ := closes_iff.mp hlast
    have hsame := doubled_append_inj hrest hrest' (hdrop.symm.trans hdrop')
    refine ⟨?_, ?_⟩
    · simp only [runToken, length_enclosed, ← hsame]
      omega
    · simp only [runToken, slice, hdrop, ← hsame, Nat.add_sub_cancel_left, List.take_left,
        List.reverse_reverse, String.toList_ofList, replaceAll_doubled]
  · exact absurd (closes_iff.mpr ⟨s, rest, hdrop, hrest, rfl⟩) (hnone _)

theorem isRun_cut :
    (runToken quote front.length s.reverse
      (front.length + (quote :: Naming.doubled quote s).length)).IsRun
        (front ++ (quote :: Naming.doubled quote s ++ [])) quote := by
  have hdrop : (front ++ quote :: Naming.doubled quote s).drop (front.length + 1)
      = Naming.doubled quote s := List.drop_length_add_append ..
  rw [List.append_nil]
  refine ⟨hquote, rfl, by simp [runToken], fun last hlast => ?_, fun _ => ⟨?_, ?_⟩⟩
  · obtain ⟨s', rest', hdrop', hrest', -⟩ := closes_iff.mp hlast
    exact absurd (hdrop.symm.trans hdrop') (doubled_ne_append hrest' s s')
  · rw [List.length_append]
    rfl
  · have hlength : (front ++ quote :: Naming.doubled quote s).length - (front.length + 1)
        = (Naming.doubled quote s).length := by
      simp only [List.length_append, List.length_cons]
      omega
    simp only [runToken, slice, hdrop, hlength, List.take_length, List.reverse_reverse,
      String.toList_ofList, replaceAll_doubled]

end Run

/-- Whether a token says what stands in the text at its place. -/
def Token.Describes (text : List Char) (token : Token) : Prop :=
  match token.kind with
  | .word => token.quote = none ∧ token.value.toList = slice text token.start token.stop ∧
      ∀ c ∈ token.value.toList, isWordPart c = true
  | .quotedName => ∃ quote, quote ≠ '\'' ∧ token.IsRun text quote
  | .string => token.IsRun text '\''
  | .opening => token.quote = none ∧ token.value = "(" ∧ slice text token.start token.stop = ['(']
  | .closing => token.quote = none ∧ token.value = ")" ∧ slice text token.start token.stop = [')']

theorem Token.IsRun.describes {text : List Char} {quote : Char} {start stop : Nat}
    {content : List Char} (h : (runToken quote start content stop).IsRun text quote) :
    (runToken quote start content stop).Describes text := by
  by_cases hquote : quote = '\''
  · subst hquote
    exact h
  · have hkind : (runToken quote start content stop).kind = .quotedName := by
      rw [runToken, beq_eq_false_iff_ne.mpr hquote]
      rfl
    unfold Token.Describes
    rw [hkind]
    exact ⟨quote, hquote, h⟩

theorem Lexeme.describes {token : Token} {lexeme rest front : List Char}
    (h : Lexeme token lexeme rest) (hstart : token.start = front.length) :
    token.Describes (front ++ (lexeme ++ rest)) := by
  cases h with
  | @word start _ _ hne hw hend =>
      obtain rfl : start = front.length := hstart
      have hvalue : (String.ofList lexeme.reverse.reverse).toList = lexeme := by
        rw [List.reverse_reverse, String.toList_ofList]
      refine ⟨rfl, hvalue.trans (slice_append_append front lexeme rest).symm, fun c hc => hw c ?_⟩
      rwa [← hvalue]
  | @opening start =>
      obtain rfl : start = front.length := hstart
      exact ⟨rfl, rfl, slice_append_append front ['('] rest⟩
  | @closing start =>
      obtain rfl : start = front.length := hstart
      exact ⟨rfl, rfl, slice_append_append front [')'] rest⟩
  | @quoted quote start s _ hquote hend =>
      obtain rfl : start = front.length := hstart
      exact (isRun_enclosed hquote front s hend).describes
  | @cut quote start s hquote =>
      obtain rfl : start = front.length := hstart
      exact (isRun_cut hquote front s).describes

/-- Whether a text behind another one consists of lexemes with gaps of blanks around them, and the
tokens are those of the lexemes at their places. -/
inductive Layout : List Char → List Char → List Token → Prop
  | gap {front gap : List Char} (hgap : ∀ c ∈ gap, Text.isSeparator c = true) : Layout front gap []
  | token {front gap lexeme rest : List Char} {token : Token} {tokens : List Token}
      (hgap : ∀ c ∈ gap, Text.isSeparator c = true) (hlexeme : Lexeme token lexeme rest)
      (hstart : token.start = (front ++ gap).length)
      (hstop : token.stop = (front ++ gap ++ lexeme).length)
      (hrest : Layout (front ++ gap ++ lexeme) rest tokens) :
      Layout front (gap ++ (lexeme ++ rest)) (token :: tokens)

theorem layout_tokensFrom (front text : List Char) :
    Layout front text (tokensFrom front.length .nothing text) := by
  generalize htokens : tokensFrom front.length .nothing text = tokens
  induction tokens generalizing front text with
  | nil => exact .gap (isSeparator_of_tokensFrom_eq_nil htokens)
  | cons token tokens ih =>
      obtain ⟨gap, lexeme, rest, rfl, hgap, hlexeme, hstart, hstop, hrest⟩ := exists_lexeme htokens
      have hstart' : token.start = (front ++ gap).length := by rw [hstart, List.length_append]
      have hstop' : token.stop = (front ++ gap ++ lexeme).length := by
        rw [hstop, hstart', ← List.length_append]
      exact .token hgap hlexeme hstart' hstop' (ih _ rest (hstop' ▸ hrest))

theorem layout_tokenize (text : List Char) : Layout [] text (tokenize text) :=
  layout_tokensFrom [] text

theorem Lexeme.length_pos {token : Token} {lexeme rest : List Char}
    (h : Lexeme token lexeme rest) : 0 < lexeme.length := by
  cases h with
  | word hne hw hend => exact List.length_pos_iff.mpr hne
  | opening | closing | quoted hquote hend | cut hquote => exact Nat.succ_pos _

namespace Layout

variable {front text : List Char} {tokens : List Token} (h : Layout front text tokens)

include h

theorem exists_lexeme {token : Token} (htoken : token ∈ tokens) :
    ∃ before lexeme rest, front ++ text = before ++ (lexeme ++ rest) ∧
      Lexeme token lexeme rest ∧ token.start = before.length ∧
      token.stop = before.length + lexeme.length ∧ front.length ≤ before.length := by
  induction h with
  | gap => cases htoken
  | @token front gap lexeme rest first tokens hgap hlexeme hstart hstop hrest ih =>
      rcases List.mem_cons.mp htoken with rfl | htoken
      · refine ⟨front ++ gap, lexeme, rest, (List.append_assoc ..).symm, hlexeme, hstart, ?_, ?_⟩
        · rw [hstop, List.length_append]
        · rw [List.length_append]
          omega
      · obtain ⟨before, lexeme', rest', hsplit, hlexeme', hstart', hstop', hfront⟩ := ih htoken
        refine ⟨before, lexeme', rest', ?_, hlexeme', hstart', hstop', ?_⟩
        · rw [← hsplit]
          simp only [List.append_assoc]
        · simp only [List.length_append] at hfront
          omega

theorem pairwise_stop_le : tokens.Pairwise fun token next => token.stop ≤ next.start := by
  induction h with
  | gap => exact .nil
  | token hgap hlexeme hstart hstop hrest ih =>
      refine List.pairwise_cons.mpr ⟨fun next hnext => ?_, ih⟩
      obtain ⟨before, -, -, -, -, hnextStart, -, hbehind⟩ := hrest.exists_lexeme hnext
      rwa [hstop, hnextStart]

theorem start_lt_stop {token : Token} (htoken : token ∈ tokens) : token.start < token.stop := by
  obtain ⟨before, lexeme, rest, -, hlexeme, hstart, hstop, -⟩ := h.exists_lexeme htoken
  have hpos := hlexeme.length_pos
  omega

theorem pairwise_start_lt : tokens.Pairwise (·.start < ·.start) :=
  h.pairwise_stop_le.imp_of_mem fun htoken _ hstop =>
    Nat.lt_of_lt_of_le (h.start_lt_stop htoken) hstop

/-- What no token covers is blank. -/
theorem isSeparator_of_forall {i : Nat} {c : Char} (hget : (front ++ text)[i]? = some c)
    (hfront : front.length ≤ i) (hout : ∀ token ∈ tokens, i < token.start ∨ token.stop ≤ i) :
    Text.isSeparator c = true := by
  have hgapOnly : ∀ front gap rest : List Char, (∀ c ∈ gap, Text.isSeparator c = true) →
      front.length ≤ i → i < (front ++ gap).length → (front ++ gap ++ rest)[i]? = some c →
      Text.isSeparator c = true := by
    intro front gap rest hgap hfront hi hget
    rw [List.getElem?_append_left hi, List.getElem?_append_right hfront] at hget
    exact hgap c (List.mem_of_getElem? hget)
  induction h with
  | @gap front gap hgap =>
      have hi := (List.getElem?_eq_some_iff.mp hget).1
      exact hgapOnly front gap [] hgap hfront hi (by rwa [List.append_nil])
  | @token front gap lexeme rest first tokens hgap hlexeme hstart hstop hrest ih =>
      have hget' : (front ++ gap ++ (lexeme ++ rest))[i]? = some c := by
        rwa [List.append_assoc]
      rcases hout first List.mem_cons_self with hbefore | hbehind
      · exact hgapOnly front gap _ hgap hfront (hstart ▸ hbefore) hget'
      · refine ih (by rwa [List.append_assoc]) (hstop ▸ hbehind) fun token htoken => ?_
        exact hout token (List.mem_cons_of_mem first htoken)

/-- Between two words that follow each other stands a blank. -/
theorem isChain_words : tokens.IsChain fun token next => token.kind = .word → next.kind = .word →
    ∃ i c, token.stop ≤ i ∧ i < next.start ∧ (front ++ text)[i]? = some c ∧
      Text.isSeparator c = true := by
  induction h with
  | gap => exact .nil
  | @token front gap lexeme rest first tokens hgap hlexeme hstart hstop hrest ih =>
      have hwhole : front ++ (gap ++ (lexeme ++ rest)) = front ++ gap ++ lexeme ++ rest := by
        simp only [List.append_assoc]
      rw [hwhole]
      cases hrest with
      | gap => exact .singleton _
      | @token _ gap' lexeme' rest' next tokens hgap' hlexeme' hstart' hstop' hrest' =>
          refine .cons_cons (fun hfirst hnext => ?_) ih
          obtain ⟨-, -, hend, -⟩ := hlexeme.of_kind hfirst
          obtain ⟨hne, hall, -, -⟩ := hlexeme'.of_kind hnext
          -- without a blank between them, the second word would go on with the first one
          cases gap' with
          | nil =>
              obtain ⟨c, word, rfl⟩ := List.exists_cons_of_ne_nil hne
              have hc := hend c rfl
              rw [hall c List.mem_cons_self] at hc
              cases hc
          | cons c gap' =>
              refine ⟨first.stop, c, Nat.le_refl _, ?_, ?_, hgap' c List.mem_cons_self⟩
              · simp only [hstop, hstart', List.length_append, List.length_cons]
                omega
              · rw [hstop, List.getElem?_append_right (Nat.le_refl _), Nat.sub_self]
                rfl

end Layout

/-- Whether tokens cover a text: each of them says what stands at its place, behind the ones in
front of it, and what none of them covers is blank. Two words that follow each other have a blank
between them. -/
structure Cover (text : List Char) (tokens : List Token) : Prop where
  start_lt_stop : ∀ token ∈ tokens, token.start < token.stop
  stop_le_length : ∀ token ∈ tokens, token.stop ≤ text.length
  stop_le_start : tokens.Pairwise fun token next => token.stop ≤ next.start
  blank : ∀ i c, text[i]? = some c → (∀ token ∈ tokens, i < token.start ∨ token.stop ≤ i) →
    Text.isSeparator c = true
  describes : ∀ token ∈ tokens, token.Describes text
  words_apart : tokens.IsChain fun token next => token.kind = .word → next.kind = .word →
    ∃ i c, token.stop ≤ i ∧ i < next.start ∧ text[i]? = some c ∧ Text.isSeparator c = true

/-- The tokens of a text cover it. -/
theorem cover_tokenize (text : List Char) : Cover text (tokenize text) := by
  have hlayout := layout_tokenize text
  refine ⟨fun token htoken => hlayout.start_lt_stop htoken, fun token htoken => ?_,
    hlayout.pairwise_stop_le,
    fun i c hget hout => hlayout.isSeparator_of_forall hget (Nat.zero_le i) hout,
    fun token htoken => ?_, hlayout.isChain_words⟩
  all_goals
    obtain ⟨before, lexeme, rest, hsplit, hlexeme, hstart, hstop, -⟩ :=
      hlayout.exists_lexeme htoken
    obtain rfl : text = before ++ (lexeme ++ rest) := hsplit
  · simp only [List.length_append]
    omega
  · exact hlexeme.describes hstart

end RelSchema.Sql
