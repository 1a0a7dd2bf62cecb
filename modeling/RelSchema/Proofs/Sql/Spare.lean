import RelSchema.Proofs.Sql.Part

/-!
# Quotes that a text does not open

A text spares a kind of quote if no run in it starts with this quote; inside runs of other kinds the
quote may stand anywhere. None of the tokens of such a text is in this quote. A text that starts in
the code of another one spares what the other one spares.
-/

namespace RelSchema.Sql

open Text (openQuote)

/-- Whether a text is a part of another one that starts where no quote is open. -/
def StartsInCode (part text : List Char) : Prop :=
  ∃ before after, text = before ++ (part ++ after) ∧ openQuote quotes none before = none

namespace StartsInCode

variable {part mid text : List Char}

theorem refl (text : List Char) : StartsInCode text text :=
  ⟨[], [], by simp, rfl⟩

theorem nil (text : List Char) : StartsInCode [] text :=
  ⟨[], text, rfl, rfl⟩

theorem trans (hpart : StartsInCode part mid) (hmid : StartsInCode mid text) :
    StartsInCode part text := by
  obtain ⟨before, after, rfl, hbefore⟩ := hpart
  obtain ⟨front, back, rfl, hfront⟩ := hmid
  refine ⟨front ++ before, after ++ back, by simp only [List.append_assoc], ?_⟩
  rw [Text.openQuote_append, hfront, hbefore]

theorem trim (text : List Char) : StartsInCode (Text.trim text) text := by
  obtain ⟨before, after, htext, hbefore, -⟩ := Text.exists_eq_append_trim text
  exact ⟨before, after, by rw [← List.append_assoc]; exact htext, openQuote_of_blank hbefore⟩

end StartsInCode

/-- The first segment is the front of the text, and the others start in code. -/
theorem exists_startsInCode_segmentsFrom {separator : Char} (hseparator : isQuote separator = false)
    (quote? : Option Char) (depth : Nat) (text : List Char) :
    ∃ first others tail, segmentsFrom separator quote? depth text = first :: others ∧
      text = first ++ tail ∧ ∀ other ∈ others, ∃ before after,
        text = before ++ (other ++ after) ∧ openQuote quotes quote? before = none := by
  induction text generalizing quote? depth with
  | nil => exact ⟨[], [], [], rfl, rfl, by simp⟩
  | cons c text ih =>
      obtain ⟨first, others, tail, hsegments, htext, hothers⟩ := ih (quoteAfter quotes quote? c)
        (if quote? == none && isCut separator depth c then depth
          else if quote? == none then depthAfter depth c else depth)
      have hbehind : ∀ other ∈ others, ∃ before after,
          c :: text = before ++ (other ++ after) ∧ openQuote quotes quote? before = none := by
        intro other hother
        obtain ⟨before, after, hsplit, hclosed⟩ := hothers other hother
        exact ⟨c :: before, after, by rw [hsplit]; rfl, hclosed⟩
      rw [segmentsFrom_cons]
      by_cases hcut : (quote? == none && isCut separator depth c) = true
      · rw [if_pos hcut] at hsegments ⊢
        obtain ⟨rfl, hc⟩ : quote? = none ∧ c = separator := by
          simp only [isCut, Bool.and_eq_true, beq_iff_eq] at hcut
          exact ⟨hcut.1, hcut.2.1.1.1.1⟩
        rw [hc, quoteAfter_of_not_isQuote hseparator] at hsegments
        refine ⟨[], first :: others, c :: text, by rw [hsegments], rfl, ?_⟩
        intro other hother
        rcases List.mem_cons.mp hother with rfl | hother
        · refine ⟨[c], tail, by rw [htext]; rfl, ?_⟩
          rw [Text.openQuote_cons, hc, quoteAfter_of_not_isQuote hseparator]
          rfl
        · exact hbehind other hother
      · rw [if_neg hcut] at hsegments ⊢
        exact ⟨c :: first, others, tail, by rw [hsegments]; rfl, by rw [htext]; rfl, hbehind⟩

theorem startsInCode_of_mem_splitTopLevel {separator : Char}
    (hseparator : isQuote separator = false) {text part : List Char}
    (hpart : part ∈ splitTopLevel separator text) : StartsInCode part text := by
  obtain ⟨segment, hsegment, rfl⟩ := List.mem_map.mp (List.mem_of_mem_filter hpart)
  refine (StartsInCode.trim segment).trans ?_
  obtain ⟨first, others, tail, hsegments, htext, hothers⟩ :=
    exists_startsInCode_segmentsFrom hseparator none 0 text
  rw [segments, hsegments] at hsegment
  rcases List.mem_cons.mp hsegment with rfl | hother
  · exact ⟨[], tail, htext, rfl⟩
  · exact hothers segment hother

theorem startsInCode_inside (text : List Char) : StartsInCode (Brackets.inside {} text) text := by
  cases hfind : Brackets.find? {} text with
  | none =>
      rw [Brackets.inside, hfind]
      exact .nil text
  | some found =>
      obtain ⟨before, inner, hfinds, hquote, -⟩ := Brackets.exists_of_findFrom hfind
      obtain ⟨after, rfl⟩ := hfinds.exists_after
      rw [hfinds.inside_eq]
      refine ⟨before ++ ['('], ')' :: after, by simp, ?_⟩
      rw [Text.openQuote_append, hquote]
      decide

theorem startsInCode_drop_of_mem_tokens {text : List Char} {token : Token}
    (htoken : token ∈ tokenize text) : StartsInCode (text.drop token.stop) text := by
  obtain ⟨before, after, rfl, hstop, hclosed⟩ := exists_append_of_mem_tokensFrom htoken
  rw [Nat.zero_add] at hstop
  rw [hstop, List.drop_left]
  rcases hclosed with hnone | rfl
  · exact ⟨before, [], by simp, hnone⟩
  · exact .nil _

/-- Whether no run in the text starts with the mark, where `quote?` is the quote that is open in
front of it. -/
def spares (mark : Char) (quote? : Option Char) : List Char → Bool
  | [] => true
  | c :: rest => (quote?.isSome || c != mark) && spares mark (quoteAfter quotes quote? c) rest

variable {mark : Char}

theorem spares_append (mark : Char) (quote? : Option Char) (a b : List Char) :
    spares mark quote? (a ++ b)
      = (spares mark quote? a && spares mark (openQuote quotes quote? a) b) := by
  induction a generalizing quote? with
  | nil => rfl
  | cons c a ih => rw [List.cons_append, spares, spares, ih, Text.openQuote_cons, Bool.and_assoc]

theorem spares_of_not_mem {text : List Char} (htext : mark ∉ text) (quote? : Option Char) :
    spares mark quote? text = true := by
  induction text generalizing quote? with
  | nil => rfl
  | cons c text ih =>
      rw [List.mem_cons, not_or] at htext
      rw [spares, ih htext.2, bne_iff_ne.mpr (Ne.symm htext.1), Bool.or_true, Bool.and_true]

theorem StartsInCode.spares {part text : List Char} (hpart : StartsInCode part text)
    (htext : spares mark none text = true) : spares mark none part = true := by
  obtain ⟨before, after, rfl, hbefore⟩ := hpart
  rw [spares_append, spares_append, hbefore] at htext
  simp only [Bool.and_eq_true] at htext
  exact htext.2.1

/-- Doubled quotes close a run and open one of the same kind. -/
theorem spares_doubled {quote : Char} (hquote : isQuote quote = true) (hne : quote ≠ mark)
    (s rest : List Char) :
    spares mark (some quote) (Naming.doubled quote s ++ rest) = spares mark (some quote) rest := by
  induction s with
  | nil => rfl
  | cons c s ih =>
      by_cases hc : c = quote
      · subst hc
        rw [doubled_cons_self, List.cons_append, List.cons_append, spares, spares, quoteAfter_self,
          quoteAfter_of_isQuote hquote, ih, bne_iff_ne.mpr hne]
        rfl
      · rw [doubled_cons_of_ne hc, List.cons_append, spares, quoteAfter_of_ne hc, ih]
        rfl

theorem head?_ne_of_spares {text : List Char} (htext : spares mark none text = true) :
    text.head? ≠ some mark := by
  cases text with
  | nil => simp
  | cons c rest =>
      rw [spares, Bool.and_eq_true] at htext
      simpa using htext.1

theorem Lexeme.head?_eq {token : Token} {lexeme rest : List Char} (h : Lexeme token lexeme rest)
    {quote : Char} (hquote : token.quote = some quote) : lexeme.head? = some quote := by
  cases h with
  | word => cases hquote
  | opening => cases hquote
  | closing => cases hquote
  | quoted => exact hquote
  | cut => exact hquote

/-- No token of a text that spares a quote is in this quote. -/
theorem quote_ne_of_mem_tokensFrom {position : Nat} {text : List Char}
    (htext : spares mark none text = true) {token : Token}
    (htoken : token ∈ tokensFrom position .nothing text) : token.quote ≠ some mark := by
  generalize htokens : tokensFrom position .nothing text = tokens at htoken
  induction tokens generalizing position text with
  | nil => cases htoken
  | cons first tokens ih =>
      obtain ⟨gap, lexeme, rest, rfl, hgap, hlexeme, -, -, hrest⟩ := exists_lexeme htokens
      have hgapQuote : openQuote quotes none gap = none :=
        openQuote_of_blank fun c hc => Text.isBlank_of_isSeparator (hgap c hc)
      rw [spares_append, spares_append, hgapQuote] at htext
      simp only [Bool.and_eq_true] at htext
      obtain ⟨-, hlexemeSpares, hrestSpares⟩ := htext
      rcases List.mem_cons.mp htoken with rfl | hmem
      · exact fun hquote => head?_ne_of_spares hlexemeSpares (hlexeme.head?_eq hquote)
      · rcases hlexeme.openQuote_eq with hclosed | rfl
        · rw [hclosed] at hrestSpares
          exact ih hrestSpares hrest hmem
        · rw [← hrest] at hmem
          cases hmem

/-- Whether a text spares a quote and closes all its runs. -/
structure Sparing (mark : Char) (text : List Char) : Prop where
  closed : openQuote quotes none text = none
  spares : spares mark none text = true

instance (mark : Char) (text : List Char) : Decidable (Sparing mark text) :=
  decidable_of_iff (openQuote quotes none text = none ∧ spares mark none text = true)
    ⟨fun ⟨hclosed, hspares⟩ => ⟨hclosed, hspares⟩, fun h => ⟨h.closed, h.spares⟩⟩

namespace Sparing

variable {a b : List Char}

theorem append (ha : Sparing mark a) (hb : Sparing mark b) : Sparing mark (a ++ b) where
  closed := by rw [Text.openQuote_append, ha.closed, hb.closed]
  spares := by rw [spares_append, ha.spares, ha.closed, hb.spares, Bool.and_self]

/-- Code without quotes opens none. -/
theorem of_not_isQuote (hmark : isQuote mark = true) {text : List Char}
    (htext : ∀ c ∈ text, isQuote c = false) : Sparing mark text where
  closed := by
    induction text with
    | nil => rfl
    | cons c text ih =>
        rw [Text.openQuote_cons, quoteAfter_of_not_isQuote (htext c List.mem_cons_self)]
        exact ih fun d hd => htext d (List.mem_cons_of_mem c hd)
  spares := by
    refine spares_of_not_mem (fun hmem => ?_) none
    rw [htext mark hmem] at hmark
    cases hmark

theorem enclosed {quote : Char} (hquote : isQuote quote = true) (hne : quote ≠ mark)
    (s : List Char) : Sparing mark (Naming.enclosed quote s) where
  closed := by
    have hcontained : SelfContained ',' (Naming.enclosed quote s) := .enclosed hquote s
    exact hcontained.balanced.openQuote_eq
  spares := by
    rw [Naming.enclosed, List.cons_append, Sql.spares, quoteAfter_of_isQuote hquote,
      spares_doubled hquote hne, bne_iff_ne.mpr hne]
    rfl

end Sparing

end RelSchema.Sql
