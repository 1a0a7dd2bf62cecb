import RelSchema.Proofs.Ddl.Default
import RelSchema.Proofs.Ddl.PlainType
import RelSchema.Proofs.Sql.Part

/-!
# Defaults that are written as they are

A default without quotes of its own starts like a literal, an expression in parentheses or a word.
If what is read behind its keyword, up to the end of the definition, gives this default again, then
the default stands for itself: it leaves nothing open and holds no comma and no comment outside its
own quotes and parentheses.
-/

namespace RelSchema.Ddl

open Sql (Token Level Lexeme Balanced SelfContained Trimmed Unmarked isQuote stripComments)
open Text (IsReserved)

/-- Whether a text starts with a single quote, a parenthesis or a word without reserved characters,
possibly with a hyphen in front. -/
def StartsPlainly (text : List Char) : Prop :=
  ∃ c rest, text = c :: rest ∧
    (c = '\'' ∨ c = '(' ∨ ¬ IsReserved c ∨ c = '-' ∧ ∃ d others, rest = d :: others ∧ ¬ IsReserved d)

theorem StartsPlainly.append {a : List Char} (h : StartsPlainly a) (b : List Char) :
    StartsPlainly (a ++ b) := by
  obtain ⟨c, rest, rfl, hc⟩ := h
  refine ⟨c, rest ++ b, rfl, ?_⟩
  rcases hc with hquote | hopen | hcode | ⟨hhyphen, d, others, rfl, hd⟩
  · exact Or.inl hquote
  · exact Or.inr (Or.inl hopen)
  · exact Or.inr (Or.inr (Or.inl hcode))
  · exact Or.inr (Or.inr (Or.inr ⟨hhyphen, d, others ++ b, rfl, hd⟩))

theorem IsSingleWord.startsPlainly {s : List Char} (h : IsSingleWord s) : StartsPlainly s := by
  obtain ⟨core, hne, hcore, hs⟩ := h
  cases core with
  | nil => exact absurd rfl hne
  | cons d others =>
      have hd := hcore d List.mem_cons_self
      rcases hs with rfl | rfl
      · exact ⟨d, others, rfl, Or.inr (Or.inr (Or.inl hd))⟩
      · exact ⟨'-', d :: others, rfl, Or.inr (Or.inr (Or.inr ⟨rfl, d, others, rfl, hd⟩))⟩

theorem startsPlainly_of_isCall {s : List Char} (h : isCall s = true) : StartsPlainly s := by
  simp only [isCall, Bool.and_eq_true] at h
  cases s with
  | nil => simp at h
  | cons c rest =>
      have hname : (Text.isWordChar c || c == '.') = true := by
        by_contra hname
        rw [Bool.not_eq_true] at hname
        simp [hname] at h
      refine ⟨c, rest, rfl, Or.inr (Or.inr (Or.inl ?_))⟩
      rcases Bool.or_eq_true_iff.mp hname with hword | hpoint
      · exact Text.not_isReserved_of_isWordChar hword
      · rw [show c = '.' by simpa using hpoint]
        decide

theorem startsPlainly_of_isBare {s : List Char} (h : isBare s = true) : StartsPlainly s := by
  by_cases hcall : isCall s = true
  · exact startsPlainly_of_isCall hcall
  · have hbare := h
    simp only [isBare, hcall, Bool.or_false, Bool.or_eq_true] at hbare
    rcases hbare with (((hnumber | htrue) | hfalse) | hnull) | hcurrent
    · exact (isSingleWord_of_isNumber hnumber).startsPlainly
    · exact (isSingleWord_of_isWord (by decide) (by decide) htrue).startsPlainly
    · exact (isSingleWord_of_isWord (by decide) (by decide) hfalse).startsPlainly
    · exact (isSingleWord_of_isWord (by decide) (by decide) hnull).startsPlainly
    · exact (isSingleWord_of_isCurrent hcurrent).startsPlainly

/-- A default that is written as it is starts plainly. -/
theorem startsPlainly_of_renderDefault {value : String} (h : renderDefault value = value) :
    StartsPlainly value.toList := by
  rw [renderDefault] at h
  split_ifs at h with hbare hliteral
  · rcases Bool.or_eq_true_iff.mp hbare with hbare | hbreak
    · exact startsPlainly_of_isBare hbare
    · obtain ⟨hlast, hbare⟩ := Bool.and_eq_true_iff.mp hbreak
      have hsplit : value.toList.dropLast ++ ['\n'] = value.toList :=
        List.dropLast_append_getLast? '\n' (by simpa using hlast)
      rw [← hsplit]
      exact (startsPlainly_of_isBare hbare).append ['\n']
  · cases hvalue : value.toList with
    | nil =>
        rw [hvalue] at hliteral
        simp at hliteral
    | cons c rest =>
        rw [hvalue] at hliteral
        refine ⟨c, rest, rfl, ?_⟩
        rcases Bool.or_eq_true_iff.mp hliteral with hquote | hopen
        · exact Or.inl (by simpa using hquote)
        · exact Or.inr (Or.inl (by simpa using (Bool.and_eq_true_iff.mp hopen).1))
  · exfalso
    have hlist : Naming.enclosed '\'' value.toList = value.toList := by
      rw [← String.toList_ofList (l := Naming.enclosed '\'' value.toList), h]
    have hhead : value.toList.head? = some '\'' := by
      rw [← hlist]
      rfl
    exact hliteral (by rw [hhead]; rfl)

theorem StartsPlainly.not_isMark {c d : Char} {rest : List Char}
    (h : StartsPlainly (c :: d :: rest)) : Sql.commentStyle.isMark c d = false := by
  obtain ⟨e, others, heq, he⟩ := h
  cases heq
  rcases he with rfl | rfl | hcode | ⟨rfl, e', others', heq', he'⟩
  · exact Sql.isMark_of_left (by decide) (by decide)
  · exact Sql.isMark_of_left (by decide) (by decide)
  · refine Sql.isMark_of_left ?_ ?_ <;> rintro rfl <;> exact hcode (by decide)
  · cases heq'
    have hne : d ≠ '-' := by
      rintro rfl
      exact he' (by decide)
    simp [Text.CommentStyle.isMark, Sql.commentStyle, hne]

/-- The first character of a plain start is kept. -/
theorem StartsPlainly.head?_stripComments {text : List Char} (h : StartsPlainly text) :
    (stripComments text).head? = text.head? := by
  cases text with
  | nil =>
      obtain ⟨c, rest, heq, -⟩ := h
      cases heq
  | cons c rest =>
      have hmark : rest.head?.any (Sql.commentStyle.isMark c) = false := by
        cases rest with
        | nil => rfl
        | cons d rest => exact h.not_isMark
      obtain ⟨rest', hstrip⟩ := Sql.exists_stripComments_cons hmark
      rw [hstrip]
      rfl

theorem unmarked_replicate_quote {quote : Char} (hquote : isQuote quote = true) (n : Nat)
    (quote? : Option Char) {rest : List Char} (hrest : rest.length ≤ 1) :
    Sql.commentStyle.unmarked quote? (List.replicate n quote ++ rest) = true := by
  induction n generalizing quote? with
  | zero =>
      match rest, hrest with
      | [], _ => rfl
      | [d], _ => exact Sql.commentStyle.unmarked_cons_iff.mpr ⟨Or.inr rfl, rfl⟩
  | succ n ih =>
      rw [List.replicate_succ, List.cons_append]
      refine Sql.commentStyle.unmarked_cons_iff.mpr ⟨Or.inr ?_, ih _⟩
      cases hnext : (List.replicate n quote ++ rest).head? with
      | none => rfl
      | some d => exact Sql.isMark_of_isQuote_left hquote

/-- The quotes in front of a text are as many without comments as with them. -/
theorem not_prefix_stripComments {quote : Char} (hquote : isQuote quote = true) (n : Nat)
    {rest : List Char} (hrest : rest.head? ≠ some quote) :
    ¬ List.replicate (n + 1) quote <+: stripComments (List.replicate n quote ++ rest) := by
  have hshort : (rest.take 1).length ≤ 1 := by
    rw [List.length_take]
    omega
  have hkept := Sql.commentStyle.stripFrom_append_of_unmarked
    (unmarked_replicate_quote hquote n none hshort)
  rw [show stripComments (List.replicate n quote ++ rest)
    = Sql.commentStyle.stripFrom (.ofQuote none) (List.replicate n quote ++ rest) from rfl, hkept,
    List.replicate_succ', List.prefix_append_right_inj]
  generalize Text.Place.ofQuote _ = place
  intro hstart
  have hhead := (Sql.keepsGaps_commentStyle.unmarked_stripFrom place rest).2
  obtain ⟨behind, hbehind⟩ := hstart
  rw [← hbehind] at hhead
  rcases hhead quote rfl with hgap | ⟨hmem, -⟩
  · rcases hgap with rfl | rfl <;> exact absurd hquote (by decide)
  · exact hrest hmem

/-- A token that belongs to a default turns the depth as the tokens of a default do, if the text is
closed in the end. -/
theorem after?_of_lexeme {dialect : Dialect} {token : Token} {lexeme rest : List Char}
    {isFirst : Bool} {depth : Nat} (h : Lexeme token lexeme rest)
    (hends : endsDefault isFirst depth (readToken dialect token) = false)
    (hclosed : Level.after? ⟨none, depth⟩ (lexeme ++ rest) = some {}) :
    Level.after? ⟨none, depth⟩ lexeme
      = some ⟨none, depthBehind depth (readToken dialect token)⟩ := by
  rcases h.after?_cases with ⟨hkind, rfl⟩ | ⟨htoken, rfl⟩ | ⟨⟨hopen, hclose⟩, quote?, hquote, hlevel⟩
  · have hread : (readToken dialect token).kind = .opening :=
      (kind_readToken_iff dialect (by decide) (by decide)).mpr hkind
    rw [depthBehind, hread]
    rfl
  · have hread : (readToken dialect token).kind = .closing := by
      rw [kind_readToken_iff dialect (by decide) (by decide), htoken]
      rfl
    cases depth with
    | zero => simp [endsDefault, hread] at hends
    | succ depth =>
        rw [depthBehind, hread]
        rfl
  · have hdepth : depthBehind depth (readToken dialect token) = depth := by
      rw [depthBehind]
      cases hkind : (readToken dialect token).kind with
      | opening =>
          exact absurd ((kind_readToken_iff dialect (by decide) (by decide)).mp hkind) hopen
      | closing =>
          exact absurd ((kind_readToken_iff dialect (by decide) (by decide)).mp hkind) hclose
      | word | quotedName | string => rfl
    rw [hdepth, hlevel]
    rcases hquote with rfl | rfl
    · rfl
    · rw [List.append_nil, hlevel] at hclosed
      cases hclosed
      rfl

/-- A default only ends outside parentheses. -/
theorem eq_zero_of_defaultTokens_eq_nil {dialect : Dialect} {depth position : Nat} {s : List Char}
    (hclosed : Level.after? ⟨none, depth⟩ s = some {})
    (h : defaultTokens false depth (tokensAt dialect position s) = []) : depth = 0 := by
  rw [tokensAt] at h
  cases htokens : Sql.tokensFrom position .nothing s with
  | nil =>
      rw [Level.after?_gap (Sql.isSeparator_of_tokensFrom_eq_nil htokens)] at hclosed
      exact congrArg Level.depth (Option.some.inj hclosed)
  | cons next raws =>
      rw [htokens, List.map_cons, defaultTokens_cons] at h
      split_ifs at h with hends
      simp only [endsDefault, Bool.or_eq_true, Bool.and_eq_true, beq_iff_eq] at hends
      rcases hends with ⟨⟨hzero, -⟩, -⟩ | ⟨hzero, -⟩ <;> exact hzero

/-- The tokens of a default cover a text that leaves nothing open. -/
theorem exists_of_defaultTokens {dialect : Dialect} {isFirst : Bool} {depth position : Nat}
    {s : List Char} {last : Token} (hclosed : Level.after? ⟨none, depth⟩ s = some {})
    (hlast : last ∈ (defaultTokens isFirst depth (tokensAt dialect position s)).getLast?) :
    ∃ a b, s = a ++ b ∧ last.stop = position + a.length ∧ Level.after? ⟨none, depth⟩ a = some {} := by
  generalize htokens : Sql.tokensFrom position .nothing s = raws
  induction raws generalizing isFirst depth position s with
  | nil =>
      rw [tokensAt, htokens] at hlast
      cases hlast
  | cons token raws ih =>
      obtain ⟨gap, lexeme, rest, rfl, hgap, hlexeme, hstart, hstop, hrest⟩ :=
        Sql.exists_lexeme htokens
      rw [tokensAt, htokens, List.map_cons, defaultTokens_cons] at hlast
      split_ifs at hlast with hends
      · cases hlast
      rw [Level.after?_append_of_eq (Level.after?_gap hgap depth)] at hclosed
      have hlevel := after?_of_lexeme hlexeme (by simpa using hends) hclosed
      rw [Level.after?_append_of_eq hlevel] at hclosed
      have hfront : Level.after? ⟨none, depth⟩ (gap ++ lexeme)
          = some ⟨none, depthBehind depth (readToken dialect token)⟩ := by
        rw [Level.after?_append_of_eq (Level.after?_gap hgap depth), hlevel]
      have hlength : token.stop = position + (gap ++ lexeme).length := by
        rw [hstop, hstart, List.length_append]
        omega
      have hmore : defaultTokens false (depthBehind depth (readToken dialect token))
          (raws.map (readToken dialect)) = defaultTokens false
            (depthBehind depth (readToken dialect token)) (tokensAt dialect token.stop rest) := by
        rw [tokensAt, hrest]
      rw [hmore, List.getLast?_cons] at hlast
      cases hbehind : (defaultTokens false (depthBehind depth (readToken dialect token))
          (tokensAt dialect token.stop rest)).getLast? with
      | some found =>
          rw [hbehind] at hlast
          cases hlast
          obtain ⟨a, b, rfl, hposition, ha⟩ := ih hclosed hbehind hrest
          refine ⟨gap ++ lexeme ++ a, b, by simp, ?_, ?_⟩
          · rw [hposition, hlength, @List.length_append Char (gap ++ lexeme) a, Nat.add_assoc]
          · rw [Level.after?_append_of_eq hfront, ha]
      | none =>
          rw [hbehind] at hlast
          cases hlast
          refine ⟨gap ++ lexeme, rest, by simp, (readToken_stop dialect token).trans hlength, ?_⟩
          rw [hfront, eq_zero_of_defaultTokens_eq_nil hclosed (List.getLast?_eq_none_iff.mp hbehind)]

theorem isSeparator_of_not_isBlank {c : Char} (hc : Text.isBlank c = false) :
    Text.isSeparator c = false := by
  refine Bool.eq_false_iff.mpr fun hseparator => ?_
  rw [Text.isBlank_of_isSeparator hseparator] at hc
  cases hc

theorem tokens_ne_nil {dialect : Dialect} {text : List Char} (hne : text ≠ [])
    (hfirst : ∀ c ∈ text.head?, Text.isBlank c = false) : tokens dialect text ≠ [] := by
  intro hnil
  obtain ⟨c, rest, rfl⟩ := List.exists_cons_of_ne_nil hne
  have hseparator := Sql.isSeparator_of_tokensFrom_eq_nil (List.map_eq_nil_iff.mp hnil)
    c List.mem_cons_self
  rw [isSeparator_of_not_isBlank (hfirst c rfl)] at hseparator
  cases hseparator

/-- The text of a default is the start of its definition up to some code behind it. -/
theorem exists_eq_defaultText_append {a : List Char} (hfirst : ∀ c ∈ a.head?, Text.isBlank c = false)
    (b : List Char) :
    ∃ code, a = defaultText (a ++ b) 0 a.length ++ code ∧
      ∀ c ∈ code, isQuote c = false ∧ c ≠ '(' ∧ c ≠ ')' := by
  have hslice : Sql.slice (a ++ b) 0 a.length = a := by
    have hsplit := Sql.slice_append_append [] a b
    rwa [List.length_nil, Nat.zero_add] at hsplit
  have hhead : ∀ {s t : List Char}, a = s ++ t → ∀ c ∈ s.head?, Text.isBlank c = false := by
    intro s t hs c hc
    exact hfirst c (hs ▸ mem_head?_append hc t)
  rw [defaultText, hslice]
  obtain ⟨gap, htrim, hgap⟩ := Text.exists_eq_trim_append hfirst
  obtain ⟨commas, hdrop, hcommas⟩ :=
    Text.exists_eq_dropEndWhile_append (· == ',') (Text.trim a)
  set dropped := Text.dropEndWhile (· == ',') (Text.trim a) with hdropped
  have ha : a = dropped ++ (commas ++ gap) := by
    rw [← List.append_assoc, ← hdrop, ← htrim]
  obtain ⟨gap', htrim', hgap'⟩ := Text.exists_eq_trim_append (hhead ha)
  refine ⟨gap' ++ (commas ++ gap), ?_, ?_⟩
  · rw [← List.append_assoc, ← htrim', ← ha]
  · intro c hc
    rcases List.mem_append.mp hc with hc | hc
    · exact Sql.isCode_of_isBlank (hgap' c hc)
    rcases List.mem_append.mp hc with hc | hc
    · rw [show c = ',' by simpa using hcommas c hc]
      decide
    · exact Sql.isCode_of_isBlank (hgap c hc)

theorem withoutQuotes_cases (text : List Char) :
    withoutQuotes text = text ∨
      ∃ quote, isQuote quote = true ∧ text = quote :: (withoutQuotes text ++ [quote]) := by
  unfold withoutQuotes
  split
  · next first second rest =>
    split_ifs with hquotes
    · obtain ⟨hquote, hlast⟩ := Bool.and_eq_true_iff.mp hquotes
      refine Or.inr ⟨first, hquote, congrArg (first :: ·) ?_⟩
      exact (List.dropLast_append_getLast? first (by simpa using hlast)).symm
    · exact Or.inl rfl
  · exact Or.inl rfl

/-! ### Defaults that are read back

What is read from a text is the text up to the end of its last token, or what stands between quotes
there. A value with a plain start cannot come from between quotes, so it is the front of a text that
stands for itself, and ends where nothing is open.
-/

theorem StartsPlainly.isBlank_head? {text : List Char} (h : StartsPlainly text) :
    ∀ c ∈ text.head?, Text.isBlank c = false := by
  obtain ⟨c, rest, rfl, hc⟩ := h
  intro d hd
  cases hd
  rcases hc with rfl | rfl | hcode | ⟨rfl, -⟩
  · decide
  · decide
  · exact Bool.eq_false_iff.mpr fun hblank => hcode (Text.isReserved_of_isBlank hblank)
  · decide

theorem StartsPlainly.eq_of_isQuote {quote : Char} {rest : List Char}
    (h : StartsPlainly (quote :: rest)) (hquote : isQuote quote = true) : quote = '\'' := by
  obtain ⟨c, others, heq, hc⟩ := h
  cases heq
  have hreserved : IsReserved quote := by
    refine Text.isReserved_of_mem ?_
    have hmem : quote ∈ Sql.quotes := by simpa [isQuote] using hquote
    have hsubset : Sql.quotes ⊆ ['\'', '"', '\x60', '(', ')', ',', ';', '-', '/'] := by decide
    exact hsubset hmem
  rcases hc with rfl | rfl | hcode | ⟨rfl, -⟩
  · rfl
  · revert hquote
    decide
  · exact absurd hreserved hcode
  · revert hquote
    decide

theorem doubled_replicate_append (quote : Char) (n : Nat) (s : List Char) :
    Naming.doubled quote (List.replicate n quote ++ s)
      = List.replicate (n + n) quote ++ Naming.doubled quote s := by
  induction n with
  | zero => rfl
  | succ n ih =>
      have hsum : n + 1 + (n + 1) = n + n + 1 + 1 := by omega
      rw [List.replicate_succ, List.cons_append, Sql.doubled_cons_self, ih, hsum,
        List.replicate_succ, List.replicate_succ]
      rfl

theorem prefix_doubled {quote : Char} {n : Nat} {s : List Char}
    (h : List.replicate n quote <+: s) : List.replicate n quote <+: Naming.doubled quote s := by
  obtain ⟨rest, rfl⟩ := h
  rw [doubled_replicate_append, List.replicate_add, List.append_assoc]
  exact List.prefix_append _ _

/-- A token in quotes covers a quote and its value, doubled. -/
theorem exists_of_quoted {dialect : Dialect} {token : Token} {lexeme rest : List Char}
    (h : Lexeme token lexeme rest) (hkind : (readToken dialect token).kind = .string ∨
      (readToken dialect token).kind = .quotedName) :
    ∃ quote s behind, isQuote quote = true ∧ lexeme = quote :: (Naming.doubled quote s ++ behind) ∧
      token.value = .ofList s := by
  cases h with
  | word hne hw hend =>
      rw [readToken_wordToken] at hkind
      rcases hkind with hkind | hkind <;> cases hkind
  | opening =>
      rw [readToken_parenToken_opening] at hkind
      rcases hkind with hkind | hkind <;> cases hkind
  | closing =>
      rw [readToken_parenToken_closing] at hkind
      rcases hkind with hkind | hkind <;> cases hkind
  | @quoted quote start s _ hquote hend =>
      refine ⟨quote, s, [quote], hquote, rfl, ?_⟩
      rw [Sql.Pending.runToken, List.reverse_reverse]
  | @cut quote start s hquote =>
      refine ⟨quote, s, [], hquote, by rw [List.append_nil], ?_⟩
      rw [Sql.Pending.runToken, List.reverse_reverse]

theorem first_of_stripComments {value : String} (hraw : renderDefault value = value)
    {text rest after : List Char} (hstrip : stripComments (value.toList ++ rest) = text ++ after) :
    ∀ c ∈ text.head?, Text.isBlank c = false := by
  have hstarts := (startsPlainly_of_renderDefault hraw).append rest
  intro c hc
  refine hstarts.isBlank_head? c ?_
  rw [← hstarts.head?_stripComments, hstrip]
  exact mem_head?_append hc after

section ReadBack

variable {value : String} (hraw : renderDefault value = value) {text rest after : List Char}
  (hrest : rest.head? ≠ some '\'') (hstrip : stripComments (value.toList ++ rest) = text ++ after)

include hraw hrest hstrip

/-- No quote stands in front of the quotes that a default starts with. -/
theorem not_quoted_start {quote : Char} (hquote : isQuote quote = true) {behind : List Char}
    (htext : text = quote :: behind) (hmore : ∀ n, List.replicate n quote <+: value.toList →
      List.replicate n quote <+: behind) : False := by
  have hstarts := startsPlainly_of_renderDefault hraw
  have hhead : (value.toList ++ rest).head? = some quote := by
    rw [← (hstarts.append rest).head?_stripComments, hstrip, htext]
    rfl
  obtain ⟨others, hothers⟩ : ∃ others, value.toList = quote :: others := by
    obtain ⟨c, others, hvalue, -⟩ := hstarts
    rw [hvalue] at hhead
    cases hhead
    exact ⟨others, hvalue⟩
  obtain rfl : quote = '\'' := by
    rw [hothers] at hstarts
    exact hstarts.eq_of_isQuote hquote
  obtain ⟨n, u, hvalue, hu⟩ : ∃ n u, value.toList = List.replicate n '\'' ++ u ∧
      u.head? ≠ some '\'' := by
    refine ⟨(value.toList.takeWhile (· == '\'')).length, value.toList.dropWhile (· == '\''), ?_, ?_⟩
    · have hall : value.toList.takeWhile (· == '\'')
          = List.replicate (value.toList.takeWhile (· == '\'')).length '\'' :=
        List.eq_replicate_length.mpr fun c hc => by simpa using List.mem_takeWhile_imp hc
      rw [← hall, List.takeWhile_append_dropWhile]
    · intro hhead
      have hnot := List.head?_dropWhile_not (· == '\'') value.toList
      rw [hhead] at hnot
      simp at hnot
  have hnext : (u ++ rest).head? ≠ some '\'' := by
    cases u with
    | nil => exact hrest
    | cons d u => exact hu
  refine not_prefix_stripComments hquote n hnext ?_
  rw [← List.append_assoc, ← hvalue, hstrip, htext, List.replicate_succ, List.cons_append,
    List.cons_prefix_cons]
  refine ⟨rfl, (hmore n ?_).trans (List.prefix_append behind after)⟩
  rw [hvalue]
  exact List.prefix_append _ u

/-- A default that is the text of its tokens stands for itself. -/
theorem selfContained_of_defaultText {dialect : Dialect} (htext : SelfContained ',' text)
    {last : Token} (hlast : last ∈ (defaultTokens true 0 (tokens dialect text)).getLast?)
    (hreads : withoutQuotes (defaultText text 0 last.stop) = value.toList) :
    SelfContained ',' value.toList ∧ EndsInCode value.toList := by
  have hfirst := first_of_stripComments hraw hstrip
  obtain ⟨a, b, rfl, hstop, hclosed⟩ := exists_of_defaultTokens htext.balanced hlast
  rw [hstop, Nat.zero_add] at hreads
  obtain ⟨code, ha, hcode⟩ :=
    exists_eq_defaultText_append (fun c hc => hfirst c (mem_head?_append hc b)) b
  have hends : EndsInCode (defaultText (a ++ b) 0 a.length) := fun c hc => Text.getLast?_trim hc
  set found := defaultText (a ++ b) 0 a.length with hfound
  have hsplit : a ++ b = found ++ (code ++ b) := by rw [← List.append_assoc, ← ha]
  rcases withoutQuotes_cases found with hsame | ⟨quote, hquote, hquoted⟩
  · have hbalanced : Balanced found := by
      rw [ha] at hclosed
      exact Balanced.of_append_code hclosed hcode
    rw [hsplit] at htext
    rw [← hreads, hsame]
    exact ⟨⟨hbalanced, htext.whole.of_append_left, htext.unmarked.of_append_left⟩, hends⟩
  · exfalso
    rw [hreads] at hquoted
    have hstarts : a ++ b = quote :: (value.toList ++ ([quote] ++ (code ++ b))) := by
      rw [hsplit, hquoted]
      simp only [List.cons_append, List.append_assoc]
    exact not_quoted_start hraw hrest hstrip hquote hstarts
      fun n hn => hn.trans (List.prefix_append _ _)

/-- A default that is read back from a definition that stands for itself stands for itself. -/
theorem selfContained_of_readDefault {dialect : Dialect} (htext : SelfContained ',' text)
    (hne : text ≠ []) (hreads : readDefault dialect text = value) :
    SelfContained ',' value.toList ∧ EndsInCode value.toList := by
  have hvalue : value ≠ "" := by
    obtain ⟨c, others, hvalue, -⟩ := startsPlainly_of_renderDefault hraw
    rintro rfl
    cases hvalue
  obtain ⟨c, w, rfl⟩ := List.exists_cons_of_ne_nil hne
  have hseparator : Text.isSeparator c = false :=
    isSeparator_of_not_isBlank (first_of_stripComments hraw hstrip c rfl)
  obtain ⟨token, lexeme, behind, hsplit, hlexeme, hstart, -, htokens⟩ :=
    Sql.exists_lexeme_of_part (s := w) hseparator
  have hread : tokens dialect (c :: w) = readToken dialect token ::
      tokensAt dialect token.stop behind := by
    rw [tokens_eq_tokensAt, tokensAt, htokens]
    rfl
  have hdefault : defaultTokens true 0 (tokens dialect (c :: w)) = readToken dialect token ::
      defaultTokens false (depthBehind 0 (readToken dialect token))
        (tokensAt dialect token.stop behind) := by
    rw [readDefault, hread, defaultTokens_cons] at hreads
    rw [hread, defaultTokens_cons]
    split_ifs at hreads ⊢ with hends
    · exact absurd hreads.symm hvalue
    · rfl
  rw [readDefault, hdefault, defaultOfTokens] at hreads
  split_ifs at hreads with hsingle
  · -- one token in quotes stands for its content, which the default would start like
    exfalso
    obtain ⟨-, hkind⟩ := Bool.and_eq_true_iff.mp hsingle
    obtain ⟨quote, content, tail, hquote, rfl, hcontent⟩ :=
      @exists_of_quoted dialect _ _ _ hlexeme (by simpa using hkind)
    obtain rfl : content = value.toList := by
      rw [← hreads, readToken_value, hcontent, String.toList_ofList]
    have hstarts : c :: w = quote :: (Naming.doubled quote value.toList ++ (tail ++ behind)) := by
      rw [hsplit, List.cons_append, List.append_assoc]
    exact not_quoted_start hraw hrest hstrip hquote hstarts
      fun n hn => (prefix_doubled hn).trans (List.prefix_append _ _)
  · rw [readToken_start, hstart] at hreads
    have hlast : (defaultTokens false (depthBehind 0 (readToken dialect token))
        (tokensAt dialect token.stop behind)).getLast?.getD (readToken dialect token)
          ∈ (defaultTokens true 0 (tokens dialect (c :: w))).getLast? := by
      rw [hdefault, List.getLast?_cons]
      rfl
    refine selfContained_of_defaultText hraw hrest hstrip htext hlast ?_
    rw [← hreads, String.toList_ofList]

end ReadBack

end RelSchema.Ddl
