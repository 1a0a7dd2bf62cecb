import Mathlib.Data.List.TakeWhile
import RelSchema.Naming.Quote
import RelSchema.Proofs.Sql.Level
import RelSchema.Sql.Token

/-!
# Tokens piece by piece

The tokens of a text are those of its pieces: blanks give none, a bare word and a quoted run give
one each, and so does a parenthesis. The lemmas read a piece off the front of a text, at any
position, and the last one reads any first token back into its piece.
-/

namespace RelSchema.Sql

open Pending

/-- Whether a character of code belongs to a bare word. -/
def isWordPart (c : Char) : Bool :=
  !isQuote c && c != '(' && c != ')' && !Text.isSeparator c

theorem isWordPart_iff {c : Char} :
    isWordPart c = true ↔
      isQuote c = false ∧ c ≠ '(' ∧ c ≠ ')' ∧ Text.isSeparator c = false := by
  simp [isWordPart, and_assoc]

theorem not_isQuote_of_isSeparator {c : Char} (hc : Text.isSeparator c = true) :
    isQuote c = false ∧ c ≠ '(' ∧ c ≠ ')' := by
  have hne : ∀ d : Char, Text.isSeparator d = false → c ≠ d := by
    rintro d hd rfl
    rw [hc] at hd
    cases hd
  refine ⟨?_, hne _ (by decide), hne _ (by decide)⟩
  simp [isQuote, quotes, hne '\'' (by decide), hne '"' (by decide), hne '\x60' (by decide)]

theorem tokensFrom_separator {c : Char} (hc : Text.isSeparator c = true) (position : Nat)
    (rest : List Char) :
    tokensFrom position .nothing (c :: rest) = tokensFrom (position + 1) .nothing rest := by
  obtain ⟨hquote, hopen, hclose⟩ := not_isQuote_of_isSeparator hc
  simp [tokensFrom, Pending.read, readCode, hquote, hopen, hclose, hc, Pending.tokens]

theorem tokensFrom_gap {gap : List Char} (hgap : ∀ c ∈ gap, Text.isSeparator c = true)
    (position : Nat) (rest : List Char) :
    tokensFrom position .nothing (gap ++ rest)
      = tokensFrom (position + gap.length) .nothing rest := by
  induction gap generalizing position with
  | nil => rfl
  | cons c gap ih =>
      rw [List.cons_append, tokensFrom_separator (hgap c List.mem_cons_self),
        ih (fun d hd => hgap d (List.mem_cons_of_mem c hd)), List.length_cons,
        Nat.add_comm gap.length 1, Nat.add_assoc]

theorem tokensFrom_opening (position : Nat) (rest : List Char) :
    tokensFrom position .nothing ('(' :: rest)
      = parenToken .opening '(' position :: tokensFrom (position + 1) .nothing rest := rfl

theorem tokensFrom_closing (position : Nat) (rest : List Char) :
    tokensFrom position .nothing (')' :: rest)
      = parenToken .closing ')' position :: tokensFrom (position + 1) .nothing rest := rfl

/-- Before a character that does not continue it, a word is complete. -/
theorem tokensFrom_word_of_end {start : Nat} {letters rest : List Char}
    (hend : ∀ c ∈ rest.head?, isWordPart c = false) (position : Nat) :
    tokensFrom position (.word start letters) rest
      = wordToken start letters position :: tokensFrom position .nothing rest := by
  cases rest with
  | nil => rfl
  | cons c rest =>
      have hc := hend c rfl
      simp only [tokensFrom, Pending.read, readCode]
      split_ifs with hquote hopen hclose hseparator
      · rfl
      · rfl
      · rfl
      · rfl
      · simp_all [isWordPart]

theorem tokensFrom_word_part {c : Char} (hc : isWordPart c = true) (position start : Nat)
    (letters rest : List Char) :
    tokensFrom position (.word start letters) (c :: rest)
      = tokensFrom (position + 1) (.word start (c :: letters)) rest := by
  obtain ⟨hquote, hopen, hclose, hseparator⟩ := isWordPart_iff.mp hc
  simp [tokensFrom, Pending.read, readCode, hquote, hopen, hclose, hseparator]

theorem tokensFrom_word_start {c : Char} (hc : isWordPart c = true) (position : Nat)
    (rest : List Char) :
    tokensFrom position .nothing (c :: rest)
      = tokensFrom (position + 1) (.word position [c]) rest := by
  obtain ⟨hquote, hopen, hclose, hseparator⟩ := isWordPart_iff.mp hc
  simp [tokensFrom, Pending.read, readCode, hquote, hopen, hclose, hseparator, Pending.tokens]

theorem tokensFrom_word_append {w rest : List Char} (hw : ∀ c ∈ w, isWordPart c = true)
    (hend : ∀ c ∈ rest.head?, isWordPart c = false) (position start : Nat)
    (letters : List Char) :
    tokensFrom position (.word start letters) (w ++ rest)
      = wordToken start (w.reverse ++ letters) (position + w.length)
          :: tokensFrom (position + w.length) .nothing rest := by
  induction w generalizing position letters with
  | nil => exact tokensFrom_word_of_end hend position
  | cons c w ih =>
      rw [List.cons_append, tokensFrom_word_part (hw c List.mem_cons_self),
        ih (fun d hd => hw d (List.mem_cons_of_mem c hd)), List.reverse_cons, List.append_assoc,
        List.length_cons, Nat.add_comm w.length 1, Nat.add_assoc]
      rfl

theorem tokensFrom_word {w rest : List Char} (hne : w ≠ []) (hw : ∀ c ∈ w, isWordPart c = true)
    (hend : ∀ c ∈ rest.head?, isWordPart c = false) (position : Nat) :
    tokensFrom position .nothing (w ++ rest)
      = wordToken position w.reverse (position + w.length)
          :: tokensFrom (position + w.length) .nothing rest := by
  cases w with
  | nil => exact absurd rfl hne
  | cons c w =>
      rw [List.cons_append, tokensFrom_word_start (hw c List.mem_cons_self),
        tokensFrom_word_append (fun d hd => hw d (List.mem_cons_of_mem c hd)) hend,
        List.reverse_cons, List.length_cons, Nat.add_comm w.length 1, Nat.add_assoc]

theorem tokensFrom_halted_of_end {quote : Char} {start : Nat} {content rest : List Char}
    (hend : ∀ c ∈ rest.head?, c ≠ quote) (position : Nat) :
    tokensFrom position (.halted quote start content) rest
      = runToken quote start content position :: tokensFrom position .nothing rest := by
  cases rest with
  | nil => rfl
  | cons c rest =>
      have hc := hend c rfl
      simp only [tokensFrom, Pending.read, beq_iff_eq, hc, if_false, readCode]
      split_ifs <;> rfl

/-- The characters of a doubled content are read into the run. -/
theorem tokensFrom_doubled (quote : Char) (start : Nat) (content s rest : List Char)
    (position : Nat) :
    tokensFrom position (.run quote start content) (Naming.doubled quote s ++ rest)
      = tokensFrom (position + (Naming.doubled quote s).length)
          (.run quote start (s.reverse ++ content)) rest := by
  induction s generalizing position content with
  | nil => rfl
  | cons c s ih =>
      have hdoubled : Naming.doubled quote (c :: s)
          = (if c == quote then [quote, quote] else [c]) ++ Naming.doubled quote s := rfl
      have hreverse : (c :: s).reverse ++ content = s.reverse ++ (c :: content) := by simp
      rw [hdoubled, List.append_assoc, List.length_append, hreverse]
      by_cases hc : c = quote
      · subst hc
        simp only [beq_self_eq_true, if_true, List.cons_append, List.nil_append, tokensFrom,
          Pending.read, List.length_cons, List.length_nil]
        rw [ih, Nat.add_assoc position 1 1, Nat.add_assoc]
      · simp only [beq_iff_eq, hc, if_false, List.cons_append, List.nil_append, tokensFrom,
          Pending.read, List.length_cons, List.length_nil]
        rw [ih, Nat.add_assoc]

theorem length_enclosed (quote : Char) (s : List Char) :
    (Naming.enclosed quote s).length = (Naming.doubled quote s).length + 2 := by
  simp [Naming.enclosed]

/-- An enclosed text gives one token, whose value is the text. -/
theorem tokensFrom_enclosed {quote : Char} (hquote : isQuote quote = true) (s : List Char)
    {rest : List Char} (hend : ∀ c ∈ rest.head?, c ≠ quote) (position : Nat) :
    tokensFrom position .nothing (Naming.enclosed quote s ++ rest)
      = runToken quote position s.reverse (position + (Naming.enclosed quote s).length)
          :: tokensFrom (position + (Naming.enclosed quote s).length) .nothing rest := by
  have hstart : ∀ text, tokensFrom position .nothing (quote :: text)
      = tokensFrom (position + 1) (.run quote position []) text := by
    intro text
    simp [tokensFrom, Pending.read, readCode, hquote, Pending.tokens]
  have hstop : ∀ position' content, tokensFrom position' (.run quote position content) (quote :: rest)
      = tokensFrom (position' + 1) (.halted quote position content) rest := by
    intro position' content
    simp [tokensFrom, Pending.read]
  have hlength : position + 1 + (Naming.doubled quote s).length + 1
      = position + (Naming.enclosed quote s).length := by
    rw [length_enclosed]
    omega
  rw [Naming.enclosed, List.cons_append, List.cons_append, List.append_assoc, hstart,
    tokensFrom_doubled, List.cons_append, List.nil_append, hstop, tokensFrom_halted_of_end hend,
    List.append_nil, hlength]
  rfl

theorem doubled_cons_self (quote : Char) (s : List Char) :
    Naming.doubled quote (quote :: s) = quote :: quote :: Naming.doubled quote s := by
  simp [Naming.doubled]

theorem doubled_cons_of_ne {quote c : Char} (hc : c ≠ quote) (s : List Char) :
    Naming.doubled quote (c :: s) = c :: Naming.doubled quote s := by
  simp [Naming.doubled, hc]

theorem doubled_append (quote : Char) (a b : List Char) :
    Naming.doubled quote (a ++ b) = Naming.doubled quote a ++ Naming.doubled quote b :=
  List.flatMap_append

theorem doubled_of_not_mem {quote : Char} {s : List Char} (h : quote ∉ s) :
    Naming.doubled quote s = s := by
  induction s with
  | nil => rfl
  | cons c s ih =>
      obtain ⟨hc, hs⟩ := not_or.mp (mt List.mem_cons.mpr h)
      rw [doubled_cons_of_ne (Ne.symm hc), ih hs]

/-- Collapsing doubled quotes takes the doubling back. -/
theorem replaceAll_doubled (quote : Char) (s : List Char) :
    Text.replaceAll [quote, quote] [quote] (Naming.doubled quote s) = s := by
  unfold Text.replaceAll
  induction s with
  | nil => rfl
  | cons c s ih =>
      by_cases hc : c = quote
      · subst hc
        have hprefix : [c, c].isPrefixOf (c :: c :: Naming.doubled c s) = true := by simp
        rw [doubled_cons_self, Text.replaceFrom, hprefix, if_pos rfl, List.length_cons,
          List.length_singleton, Nat.add_sub_cancel, Text.replaceFrom, ih]
        rfl
      · have hprefix : [quote, quote].isPrefixOf (c :: Naming.doubled quote s) = false := by
          rw [List.isPrefixOf_cons_cons, beq_eq_false_iff_ne.mpr (Ne.symm hc), Bool.false_and]
        rw [doubled_cons_of_ne hc, Text.replaceFrom, hprefix, ih]
        rfl

/-- A text is a doubled one, possibly up to a lone quote. -/
theorem exists_doubled_split (quote : Char) : ∀ s : List Char,
    ∃ body, s = Naming.doubled quote body ∨
      ∃ rest, s = Naming.doubled quote body ++ quote :: rest ∧ ∀ c ∈ rest.head?, c ≠ quote
  | [] => ⟨[], Or.inl rfl⟩
  | c :: s => by
      by_cases hc : c = quote
      · subst hc
        cases s with
        | nil => exact ⟨[], Or.inr ⟨[], rfl, by simp⟩⟩
        | cons d s =>
            by_cases hd : d = c
            · subst hd
              obtain ⟨body, hs | ⟨rest, hs, hrest⟩⟩ := exists_doubled_split d s
              · refine ⟨d :: body, Or.inl ?_⟩
                rw [doubled_cons_self, ← hs]
              · refine ⟨d :: body, Or.inr ⟨rest, ?_, hrest⟩⟩
                rw [doubled_cons_self, List.cons_append, List.cons_append, ← hs]
            · exact ⟨[], Or.inr ⟨d :: s, rfl, by simpa using hd⟩⟩
      · obtain ⟨body, hs | ⟨rest, hs, hrest⟩⟩ := exists_doubled_split quote s
        · refine ⟨c :: body, Or.inl ?_⟩
          rw [doubled_cons_of_ne hc, ← hs]
        · refine ⟨c :: body, Or.inr ⟨rest, ?_, hrest⟩⟩
          rw [doubled_cons_of_ne hc, List.cons_append, ← hs]

/-- A run is read up to its lone quote, or to the end of the text if it has none. -/
theorem exists_doubled_of_run (quote : Char) (start : Nat) (content s : List Char)
    (position : Nat) :
    ∃ body, (s = Naming.doubled quote body ∧
        tokensFrom position (.run quote start content) s
          = [runToken quote start (body.reverse ++ content) (position + s.length)]) ∨
      ∃ rest, s = Naming.doubled quote body ++ quote :: rest ∧ (∀ c ∈ rest.head?, c ≠ quote) ∧
        tokensFrom position (.run quote start content) s
          = runToken quote start (body.reverse ++ content)
              (position + ((Naming.doubled quote body).length + 1))
            :: tokensFrom (position + ((Naming.doubled quote body).length + 1)) .nothing rest := by
  have hread : ∀ body rest, (∀ c ∈ rest.head?, c ≠ quote) →
      tokensFrom position (.run quote start content) (Naming.doubled quote body ++ quote :: rest)
        = runToken quote start (body.reverse ++ content)
            (position + ((Naming.doubled quote body).length + 1))
          :: tokensFrom (position + ((Naming.doubled quote body).length + 1)) .nothing rest := by
    intro body rest hrest
    rw [tokensFrom_doubled, ← Nat.add_assoc, ← tokensFrom_halted_of_end hrest]
    simp [tokensFrom, Pending.read]
  obtain ⟨body, hs | ⟨rest, hs, hrest⟩⟩ := exists_doubled_split quote s
  · refine ⟨body, Or.inl ⟨hs, ?_⟩⟩
    have happend := tokensFrom_doubled quote start content body [] position
    rw [List.append_nil, ← hs] at happend
    rw [happend]
    rfl
  · refine ⟨body, Or.inr ⟨rest, hs, hrest, ?_⟩⟩
    rw [hs]
    exact hread body rest hrest

theorem slice_append_append (a b c : List Char) :
    slice (a ++ (b ++ c)) a.length (a.length + b.length) = b := by
  rw [slice, List.drop_left, Nat.add_sub_cancel_left, List.take_left]

theorem slice_append_add (a b : List Char) (start stop : Nat) :
    slice (a ++ b) (start + a.length) (stop + a.length) = slice b start stop := by
  rw [slice, slice, Nat.add_comm start, Nat.add_comm stop, List.drop_append,
    List.drop_eq_nil_of_le (Nat.le_add_right _ _), List.nil_append, Nat.add_sub_add_left,
    Nat.add_sub_cancel_left]

/-- The token of the same text further on. -/
def Token.shift (n : Nat) (token : Token) : Token :=
  { token with start := token.start + n, stop := token.stop + n }

/-- The same part of a token further on. -/
def Pending.shift (n : Nat) : Pending → Pending
  | nothing => nothing
  | word start letters => word (start + n) letters
  | run quote start content => run quote (start + n) content
  | halted quote start content => halted quote (start + n) content

theorem Pending.tokens_shift (n stop : Nat) (pending : Pending) :
    (pending.shift n).tokens (stop + n) = (pending.tokens stop).map (Token.shift n) := by
  cases pending <;> rfl

theorem parenToken_shift (n : Nat) (kind : TokenKind) (c : Char) (start : Nat) :
    parenToken kind c (start + n) = (parenToken kind c start).shift n := by
  simp only [parenToken, Token.shift, Token.mk.injEq, true_and]
  omega

theorem Pending.readCode_shift (n position : Nat) (c : Char) (pending : Pending) :
    readCode (position + n) c (pending.shift n)
      = ((readCode position c pending).1.map (Token.shift n),
          (readCode position c pending).2.shift n) := by
  simp only [readCode, tokens_shift, parenToken_shift]
  split_ifs
  · rfl
  · simp [Pending.shift]
  · simp [Pending.shift]
  · rfl
  · cases pending <;> rfl

theorem Pending.read_shift (n position : Nat) (c : Char) (pending : Pending) :
    (pending.shift n).read (position + n) c
      = ((pending.read position c).1.map (Token.shift n), (pending.read position c).2.shift n) := by
  cases pending with
  | nothing => exact readCode_shift n position c .nothing
  | word start letters => exact readCode_shift n position c (.word start letters)
  | run quote start content =>
      simp only [Pending.shift, Pending.read]
      split_ifs <;> rfl
  | halted quote start content =>
      have hcode := readCode_shift n position c (.halted quote start content)
      simp only [Pending.shift, Pending.read] at hcode ⊢
      split_ifs
      · rfl
      · exact hcode

/-- The tokens of a text depend on its place by their positions only. -/
theorem tokensFrom_shift (n position : Nat) (pending : Pending) (text : List Char) :
    tokensFrom (position + n) (pending.shift n) text
      = (tokensFrom position pending text).map (Token.shift n) := by
  induction text generalizing position pending with
  | nil => exact tokens_shift n position pending
  | cons c text ih =>
      simp only [tokensFrom, read_shift, List.map_append]
      rw [Nat.add_right_comm, ih]

theorem tokensFrom_eq_map_shift (position : Nat) (text : List Char) :
    tokensFrom position .nothing text = (tokenize text).map (Token.shift position) := by
  have hshift := tokensFrom_shift position 0 .nothing text
  rwa [Nat.zero_add] at hshift

/-! ### Reading a token back

Every text is blank or starts, behind blanks, with the text of a token. So proofs about texts can go
through them token by token, with one case for each kind.
-/

/-- The text of a token, and the text behind it. A run that the text cuts off has no quote at its
end. -/
inductive Lexeme : Token → List Char → List Char → Prop
  | word {start : Nat} {w rest : List Char} (hne : w ≠ []) (hw : ∀ c ∈ w, isWordPart c = true)
      (hend : ∀ c ∈ rest.head?, isWordPart c = false) :
      Lexeme (wordToken start w.reverse (start + w.length)) w rest
  | opening {start : Nat} {rest : List Char} : Lexeme (parenToken .opening '(' start) ['('] rest
  | closing {start : Nat} {rest : List Char} : Lexeme (parenToken .closing ')' start) [')'] rest
  | quoted {quote : Char} {start : Nat} {s rest : List Char} (hquote : isQuote quote = true)
      (hend : ∀ c ∈ rest.head?, c ≠ quote) :
      Lexeme (runToken quote start s.reverse (start + (Naming.enclosed quote s).length))
        (Naming.enclosed quote s) rest
  | cut {quote : Char} {start : Nat} {s : List Char} (hquote : isQuote quote = true) :
      Lexeme (runToken quote start s.reverse (start + (quote :: Naming.doubled quote s).length))
        (quote :: Naming.doubled quote s) []

theorem runToken_kind_ne {kind : TokenKind} (hstring : kind ≠ .string) (hname : kind ≠ .quotedName)
    (quote : Char) (start : Nat) (content : List Char) (stop : Nat) :
    (runToken quote start content stop).kind ≠ kind := by
  rw [runToken]
  split
  · exact hstring.symm
  · exact hname.symm

theorem Lexeme.of_kind {token : Token} {lexeme rest : List Char} (h : Lexeme token lexeme rest)
    (hkind : token.kind = .word) : lexeme ≠ [] ∧ (∀ c ∈ lexeme, isWordPart c = true) ∧
      (∀ c ∈ rest.head?, isWordPart c = false) ∧
      ∃ start, token = wordToken start lexeme.reverse (start + lexeme.length) := by
  cases h with
  | @word start w rest hne hw hend => exact ⟨hne, hw, hend, start, rfl⟩
  | opening | closing => cases hkind
  | quoted | cut => exact absurd hkind (runToken_kind_ne (by decide) (by decide) _ _ _ _)

/-- The front of a text that does not start in a blank gives a token. -/
theorem exists_lexeme_of_part {position : Nat} {c : Char} {s : List Char}
    (hc : Text.isSeparator c = false) :
    ∃ token lexeme rest, c :: s = lexeme ++ rest ∧ Lexeme token lexeme rest ∧
      token.start = position ∧ token.stop = position + lexeme.length ∧
      tokensFrom position .nothing (c :: s) = token :: tokensFrom token.stop .nothing rest := by
  by_cases hquote : isQuote c = true
  · have hstart : tokensFrom position .nothing (c :: s)
        = tokensFrom (position + 1) (.run c position []) s := by
      simp [tokensFrom, Pending.read, readCode, hquote, Pending.tokens]
    obtain ⟨body, ⟨hs, htokens⟩ | ⟨rest, hs, hrest, htokens⟩⟩ :=
      exists_doubled_of_run c position [] s (position + 1)
    · refine ⟨_, c :: Naming.doubled c body, [], by rw [hs, List.append_nil],
        .cut hquote, rfl, rfl, ?_⟩
      have hlength : position + 1 + (Naming.doubled c body).length
          = position + (c :: Naming.doubled c body).length := by
        rw [List.length_cons]
        omega
      rw [hstart, htokens, List.append_nil, hs, hlength]
      rfl
    · have hlength : position + 1 + ((Naming.doubled c body).length + 1)
          = position + (Naming.enclosed c body).length := by
        rw [length_enclosed]
        omega
      refine ⟨_, Naming.enclosed c body, rest, ?_, .quoted hquote hrest, rfl,
        rfl, ?_⟩
      · rw [hs]
        simp [Naming.enclosed]
      · rw [hstart, htokens, List.append_nil, hlength]
        rfl
  by_cases hopen : c = '('
  · subst hopen
    exact ⟨_, ['('], s, rfl, .opening, rfl, rfl, rfl⟩
  by_cases hclose : c = ')'
  · subst hclose
    exact ⟨_, [')'], s, rfl, .closing, rfl, rfl, rfl⟩
  have hpart : isWordPart c = true :=
    isWordPart_iff.mpr ⟨by simpa using hquote, hopen, hclose, hc⟩
  have hne : (c :: s).takeWhile isWordPart ≠ [] := by
    simp [hpart]
  have hall : ∀ d ∈ (c :: s).takeWhile isWordPart, isWordPart d = true :=
    fun d hd => List.mem_takeWhile_imp hd
  have hend : ∀ d ∈ ((c :: s).dropWhile isWordPart).head?, isWordPart d = false := by
    intro d hd
    have hnot := List.head?_dropWhile_not isWordPart (c :: s)
    rw [hd] at hnot
    simpa using hnot
  have hsplit : (c :: s).takeWhile isWordPart ++ (c :: s).dropWhile isWordPart = c :: s :=
    List.takeWhile_append_dropWhile
  refine ⟨_, _, _, hsplit.symm, .word hne hall hend, rfl, rfl, ?_⟩
  have hword := tokensFrom_word hne hall hend position
  rw [hsplit] at hword
  exact hword

/-- A text without tokens is blank. -/
theorem isSeparator_of_tokensFrom_eq_nil {position : Nat} {s : List Char}
    (h : tokensFrom position .nothing s = []) : ∀ c ∈ s, Text.isSeparator c = true := by
  induction s generalizing position with
  | nil => simp
  | cons c s ih =>
      by_cases hc : Text.isSeparator c = true
      · rw [tokensFrom_separator hc] at h
        intro d hd
        rcases List.mem_cons.mp hd with rfl | hd
        · exact hc
        · exact ih h d hd
      · obtain ⟨token, _, rest, _, _, _, _, htokens⟩ :=
          exists_lexeme_of_part (s := s) (by simpa using hc)
        rw [h] at htokens
        cases htokens

/-- The first token has its text behind a gap. -/
theorem exists_lexeme {position : Nat} {s : List Char} {token : Token} {tokens : List Token}
    (h : tokensFrom position .nothing s = token :: tokens) :
    ∃ gap lexeme rest, s = gap ++ (lexeme ++ rest) ∧ (∀ c ∈ gap, Text.isSeparator c = true) ∧
      Lexeme token lexeme rest ∧ token.start = position + gap.length ∧
      token.stop = token.start + lexeme.length ∧ tokensFrom token.stop .nothing rest = tokens := by
  induction s generalizing position with
  | nil => cases h
  | cons c s ih =>
      by_cases hc : Text.isSeparator c = true
      · rw [tokensFrom_separator hc] at h
        obtain ⟨gap, lexeme, rest, rfl, hgap, hlexeme, hstart, hrest⟩ := ih h
        refine ⟨c :: gap, lexeme, rest, rfl, ?_, hlexeme, ?_, hrest⟩
        · intro d hd
          rcases List.mem_cons.mp hd with rfl | hd
          · exact hc
          · exact hgap d hd
        · rw [hstart, List.length_cons]
          omega
      · obtain ⟨found, lexeme, rest, hs, hlexeme, hstart, hstop, htokens⟩ :=
          exists_lexeme_of_part (s := s) (by simpa using hc)
        rw [htokens, List.cons.injEq] at h
        obtain ⟨rfl, hrest⟩ := h
        refine ⟨[], lexeme, rest, hs, by simp, hlexeme, hstart, ?_, hrest⟩
        rw [hstop, hstart]

end RelSchema.Sql
