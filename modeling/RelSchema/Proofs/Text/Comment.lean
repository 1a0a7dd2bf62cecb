import Mathlib.Tactic.Common
import RelSchema.Sql.Quote
import RelSchema.Text.Comment

/-!
# Removal of comments

A text is unmarked if no comment starts in it outside quotes. Such a text is left as it is, and what
the removal leaves is unmarked, so removing comments twice is the same as doing it once. Texts are
removed from part by part wherever the scan stands in code between the parts, so a comment there is
the same as the gap that it leaves.
-/

namespace RelSchema.Text

open Sql (quoteAfter)

def openQuote (quotes : List Char) (quote? : Option Char) (text : List Char) : Option Char :=
  text.foldl (quoteAfter quotes) quote?

@[simp]
theorem openQuote_nil (quotes : List Char) (quote? : Option Char) :
    openQuote quotes quote? [] = quote? := rfl

@[simp]
theorem openQuote_cons (quotes : List Char) (quote? : Option Char) (c : Char) (text : List Char) :
    openQuote quotes quote? (c :: text) = openQuote quotes (quoteAfter quotes quote? c) text := rfl

theorem openQuote_append (quotes : List Char) (quote? : Option Char) (a b : List Char) :
    openQuote quotes quote? (a ++ b) = openQuote quotes (openQuote quotes quote? a) b :=
  List.foldl_append

/-- The place in a text without comments behind which the quote is open. -/
def Place.ofQuote : Option Char → Place
  | none => .code
  | some quote => .quoted quote

def Place.quote? : Place → Option Char
  | quoted quote => some quote
  | _ => none

@[simp]
theorem Place.quote?_ofQuote (quote? : Option Char) : (Place.ofQuote quote?).quote? = quote? := by
  cases quote? <;> rfl

def Place.isKept : Place → Bool
  | code | quoted _ => true
  | lineComment | blockComment => false

namespace CommentStyle

variable (style : CommentStyle)

/-- Whether two characters of code start a comment. -/
def isMark (c d : Char) : Bool :=
  (c == style.lineMark && d == style.lineMark) || (c == '/' && d == '*')

/-- Whether no comment starts in the text, in front of which the quote is open if there is one. -/
def unmarked (quote? : Option Char) : List Char → Bool
  | [] => true
  | c :: rest =>
    (quote?.isSome || !rest.head?.any (style.isMark c)) &&
      unmarked (quoteAfter style.quotes quote? c) rest

theorem enter_eq (c : Char) : style.enter c = .ofQuote (quoteAfter style.quotes none c) := by
  by_cases hc : style.quotes.contains c <;> simp only [enter, quoteAfter, hc] <;> rfl

theorem ofQuote_quoteAfter (quote c : Char) :
    (if c == quote then Place.code else .quoted quote)
      = .ofQuote (quoteAfter style.quotes (some quote) c) := by
  by_cases hc : c == quote <;> simp only [quoteAfter, hc] <;> rfl

/-- A character that starts no comment is kept. -/
theorem stripFrom_cons_of_unmarked {quote? : Option Char} {c : Char} {rest : List Char}
    (hmark : quote?.isSome ∨ rest.head?.any (style.isMark c) = false) :
    style.stripFrom (.ofQuote quote?) (c :: rest)
      = c :: style.stripFrom (.ofQuote (quoteAfter style.quotes quote? c)) rest := by
  cases quote? with
  | some quote => rw [Place.ofQuote, stripFrom, ofQuote_quoteAfter]
  | none =>
      cases rest with
      | nil =>
          rw [Place.ofQuote, stripFrom]
          cases quoteAfter style.quotes none c <;> simp [stripFrom]
      | cons d rest =>
          have hcd : style.isMark c d = false := by simpa using hmark
          simp only [isMark, Bool.or_eq_false_iff] at hcd
          rw [Place.ofQuote, stripFrom, hcd.1, hcd.2, enter_eq]
          rfl

theorem unmarked_cons_iff {quote? : Option Char} {c : Char} {rest : List Char} :
    style.unmarked quote? (c :: rest) = true ↔
      (quote?.isSome ∨ rest.head?.any (style.isMark c) = false) ∧
        style.unmarked (quoteAfter style.quotes quote? c) rest = true := by
  rw [unmarked, Bool.and_eq_true, Bool.or_eq_true, Bool.not_eq_true']

/-- The part of a text in front of which no comment starts is kept. -/
theorem stripFrom_append_of_unmarked {quote? : Option Char} {a b : List Char}
    (h : style.unmarked quote? (a ++ b.take 1) = true) :
    style.stripFrom (.ofQuote quote?) (a ++ b)
      = a ++ style.stripFrom (.ofQuote (openQuote style.quotes quote? a)) b := by
  induction a generalizing quote? with
  | nil => rfl
  | cons c a ih =>
      rw [List.cons_append, unmarked_cons_iff] at h
      have hhead : (a ++ b.take 1).head? = (a ++ b).head? := by
        cases a <;> cases b <;> rfl
      rw [hhead] at h
      rw [List.cons_append, style.stripFrom_cons_of_unmarked h.1, ih h.2]
      rfl

theorem stripFrom_eq_self {quote? : Option Char} {text : List Char}
    (h : style.unmarked quote? text = true) : style.stripFrom (.ofQuote quote?) text = text := by
  have happend := style.stripFrom_append_of_unmarked (a := text) (b := []) (by simpa using h)
  simpa [stripFrom] using happend

theorem unmarked_of_append_left {quote? : Option Char} {a b : List Char}
    (h : style.unmarked quote? (a ++ b) = true) : style.unmarked quote? a = true := by
  induction a generalizing quote? with
  | nil => rfl
  | cons c a ih =>
      rw [List.cons_append, unmarked_cons_iff] at h
      refine style.unmarked_cons_iff.mpr ⟨?_, ih h.2⟩
      cases a with
      | nil => exact Or.inr rfl
      | cons d a => exact h.1

theorem unmarked_of_append_right {quote? : Option Char} {a b : List Char}
    (h : style.unmarked quote? (a ++ b) = true) :
    style.unmarked (openQuote style.quotes quote? a) b = true := by
  induction a generalizing quote? with
  | nil => exact h
  | cons c a ih =>
      rw [List.cons_append, unmarked_cons_iff] at h
      exact ih h.2

/-- Two unmarked texts are unmarked together unless a mark stands across the seam. -/
theorem unmarked_append {quote? : Option Char} {a b : List Char}
    (ha : style.unmarked quote? a = true)
    (hb : style.unmarked (openQuote style.quotes quote? a) b = true)
    (hseam : ∀ c ∈ a.getLast?, ∀ d ∈ b.head?, style.isMark c d = false) :
    style.unmarked quote? (a ++ b) = true := by
  induction a generalizing quote? with
  | nil => exact hb
  | cons c a ih =>
      rw [unmarked_cons_iff] at ha
      rw [List.cons_append, unmarked_cons_iff]
      cases a with
      | nil =>
          refine ⟨Or.inr ?_, hb⟩
          cases b with
          | nil => rfl
          | cons d b => exact hseam c rfl d rfl
      | cons d a => exact ⟨ha.1, ih ha.2 hb hseam⟩

/-- What stands in the place of a comment is neither a mark nor a quote. -/
def KeepsGaps : Prop :=
  ∀ c, c = '\n' ∨ c = ' ' → c ≠ style.lineMark ∧ style.quotes.contains c = false

variable {style}

theorem KeepsGaps.isMark_right (hgaps : style.KeepsGaps) {c d : Char} (hd : d = '\n' ∨ d = ' ') :
    style.isMark c d = false := by
  have hline := (hgaps d hd).1
  rcases hd with rfl | rfl <;> simp [isMark, hline]

theorem KeepsGaps.any_isMark (hgaps : style.KeepsGaps) {c : Char} (hc : c = '\n' ∨ c = ' ')
    (rest : List Char) : rest.head?.any (style.isMark c) = false := by
  have hline := (hgaps c hc).1
  cases rest with
  | nil => rfl
  | cons d rest => rcases hc with rfl | rfl <;> simp [isMark, hline]

theorem KeepsGaps.unmarked_cons (hgaps : style.KeepsGaps) {c : Char} (hc : c = '\n' ∨ c = ' ')
    {rest : List Char} (hrest : style.unmarked none rest = true) :
    style.unmarked none (c :: rest) = true := by
  refine style.unmarked_cons_iff.mpr ⟨Or.inr (hgaps.any_isMark hc rest), ?_⟩
  simpa only [quoteAfter, (hgaps c hc).2, Bool.false_eq_true, if_false] using hrest

/-- A line break or a space in code is kept, whatever follows. -/
theorem KeepsGaps.stripFrom_cons (hgaps : style.KeepsGaps) {c : Char} (hc : c = '\n' ∨ c = ' ')
    (rest : List Char) : style.stripFrom .code (c :: rest) = c :: style.stripFrom .code rest := by
  have hkept := @stripFrom_cons_of_unmarked style none c rest (Or.inr (hgaps.any_isMark hc rest))
  rwa [quoteAfter, (hgaps c hc).2] at hkept

/-- The text left behind a place is unmarked, and it starts with what a comment leaves unless the
place is in no comment and its first character is kept. -/
theorem KeepsGaps.unmarked_stripFrom (hgaps : style.KeepsGaps) (place : Place) (text : List Char) :
    style.unmarked place.quote? (style.stripFrom place text) = true ∧
      ∀ d ∈ (style.stripFrom place text).head?,
        (d = '\n' ∨ d = ' ') ∨ (d ∈ text.head? ∧ place.isKept = true) := by
  -- inside a comment the induction hypothesis leaves only the first alternative
  have hcomment : ∀ {place : Place} {text : List Char} {d : Char}, place.isKept = false →
      (d = '\n' ∨ d = ' ') ∨ (d ∈ text.head? ∧ place.isKept = true) → d = '\n' ∨ d = ' ' := by
    intro place text d hkept h
    rcases h with hgap | ⟨_, hkept'⟩
    · exact hgap
    · rw [hkept] at hkept'
      cases hkept'
  fun_induction stripFrom style place text with
  | case1 place => exact ⟨rfl, by simp⟩
  | case2 c => exact ⟨by simp [unmarked], by simp [Place.isKept]⟩
  | case3 c d rest hcd ih => exact ⟨ih.1, fun e he => Or.inl (hcomment rfl (ih.2 e he))⟩
  | case4 c d rest hline hcd ih => exact ⟨ih.1, fun e he => Or.inl (hcomment rfl (ih.2 e he))⟩
  | case5 c d rest hline hblock ih =>
      refine ⟨style.unmarked_cons_iff.mpr ⟨Or.inr ?_, ?_⟩, by simp [Place.isKept]⟩
      · cases hleft : style.stripFrom (style.enter c) (d :: rest) with
        | nil => rfl
        | cons e left =>
            rw [hleft] at ih
            have hce : style.isMark c e = false := by
              rcases ih.2 e rfl with hgap | ⟨he, _⟩
              · exact hgaps.isMark_right hgap
              · cases he
                simp_all [isMark]
            simpa using hce
      · rw [enter_eq, Place.quote?_ofQuote] at ih
        rw [enter_eq]
        exact ih.1
  | case6 quote c rest ih =>
      refine ⟨style.unmarked_cons_iff.mpr ⟨Or.inl rfl, ?_⟩, by simp [Place.isKept]⟩
      rw [ofQuote_quoteAfter style, Place.quote?_ofQuote] at ih
      rw [ofQuote_quoteAfter style]
      exact ih.1
  | case7 c rest hbreak ih =>
      have hc : c = '\n' := by simpa using hbreak
      exact ⟨hgaps.unmarked_cons (Or.inl hc) ih.1, by simp [hc]⟩
  | case8 c rest hbreak ih => exact ⟨ih.1, fun e he => Or.inl (hcomment rfl (ih.2 e he))⟩
  | case9 c => exact ⟨rfl, by simp⟩
  | case10 c d rest hend ih => exact ⟨hgaps.unmarked_cons (Or.inr rfl) ih.1, by simp⟩
  | case11 c d rest hend ih => exact ⟨ih.1, fun e he => Or.inl (hcomment rfl (ih.2 e he))⟩

theorem KeepsGaps.unmarked_strip (hgaps : style.KeepsGaps) (text : List Char) :
    style.unmarked none (style.strip text) = true :=
  (hgaps.unmarked_stripFrom .code text).1

theorem KeepsGaps.strip_strip (hgaps : style.KeepsGaps) (text : List Char) :
    style.strip (style.strip text) = style.strip text :=
  style.stripFrom_eq_self (hgaps.unmarked_strip text)

variable (style)

def placeAfter : Place → List Char → Place
  | place, [] => place
  | .code, [c] => style.enter c
  | .code, c :: d :: rest =>
    if c == style.lineMark && d == style.lineMark then placeAfter .lineComment rest
    else if c == '/' && d == '*' then placeAfter .blockComment rest
    else placeAfter (style.enter c) (d :: rest)
  | .quoted quote, c :: rest =>
    placeAfter (if c == quote then .code else .quoted quote) rest
  | .lineComment, c :: rest => placeAfter (if c == '\n' then .code else .lineComment) rest
  | .blockComment, [_] => .blockComment
  | .blockComment, c :: d :: rest =>
    if c == '*' && d == '/' then placeAfter .code rest else placeAfter .blockComment (d :: rest)

/-- Where a text ends in code, what follows is read on its own, unless a mark stands across the
seam. -/
theorem stripFrom_append_of_code {place : Place} {a b : List Char}
    (ha : style.placeAfter place a = .code)
    (hseam : ∀ c ∈ a.getLast?, ∀ d ∈ b.head?, style.isMark c d = false) :
    style.stripFrom place (a ++ b) = style.stripFrom place a ++ style.stripFrom .code b := by
  have hlast : ∀ (front : List Char) {back : List Char} {c : Char},
      c ∈ back.getLast? → c ∈ (front ++ back).getLast? := by
    intro front back c hc
    rw [List.getLast?_append, hc, Option.some_or]
    rfl
  fun_induction placeAfter style place a with
  | case1 place =>
      subst ha
      simp [stripFrom]
  | case2 c =>
      cases b with
      | nil => simp [stripFrom]
      | cons d b =>
          have hmark : (none : Option Char).isSome ∨ (d :: b).head?.any (style.isMark c) = false :=
            Or.inr (by simpa using hseam c rfl d rfl)
          have hkept := style.stripFrom_cons_of_unmarked hmark
          rw [← enter_eq, ha] at hkept
          rw [stripFrom]
          exact hkept
  | case3 c d rest hcd ih =>
      rw [List.cons_append, List.cons_append, stripFrom, stripFrom, if_pos hcd, if_pos hcd]
      exact ih ha fun e he => hseam e (hlast [c, d] he)
  | case4 c d rest hline hcd ih =>
      rw [List.cons_append, List.cons_append, stripFrom, stripFrom, if_neg hline, if_neg hline,
        if_pos hcd, if_pos hcd]
      exact ih ha fun e he => hseam e (hlast [c, d] he)
  | case5 c d rest hline hblock ih =>
      rw [List.cons_append, List.cons_append, stripFrom, stripFrom, if_neg hline, if_neg hline,
        if_neg hblock, if_neg hblock, List.cons_append,
        ← ih ha fun e he => hseam e (hlast [c] he)]
      rfl
  | case6 quote c rest ih =>
      rw [List.cons_append, stripFrom, stripFrom, List.cons_append,
        ← ih ha fun e he => hseam e (hlast [c] he)]
  | case7 c rest ih =>
      have hrest := ih ha fun e he => hseam e (hlast [c] he)
      rw [List.cons_append, stripFrom, stripFrom]
      by_cases hbreak : c == '\n'
      · simp only [hbreak, if_true] at hrest ⊢
        rw [List.cons_append, ← hrest]
      · simp only [hbreak] at hrest ⊢
        exact hrest
  | case8 c => cases ha
  | case9 c d rest hend ih =>
      rw [List.cons_append, List.cons_append, stripFrom, stripFrom, if_pos hend, if_pos hend,
        List.cons_append, ← ih ha fun e he => hseam e (hlast [c, d] he)]
  | case10 c d rest hend ih =>
      rw [List.cons_append, List.cons_append, stripFrom, stripFrom, if_neg hend, if_neg hend]
      exact ih ha fun e he => hseam e (hlast [c] he)

/-- The scan of a block comment ends at its mark. -/
theorem stripFrom_blockComment {comment : List Char} (hcomment : ¬ ['*', '/'] <:+: comment)
    (rest : List Char) :
    style.stripFrom .blockComment (comment ++ '*' :: '/' :: rest)
      = ' ' :: style.stripFrom .code rest := by
  induction comment with
  | nil => rfl
  | cons c comment ih =>
      obtain ⟨d, behind, hbehind, hd⟩ : ∃ d behind, comment ++ '*' :: '/' :: rest = d :: behind ∧
          ¬(c = '*' ∧ d = '/') := by
        cases comment with
        | nil => exact ⟨'*', _, rfl, by simp⟩
        | cons d comment =>
            refine ⟨d, _, rfl, ?_⟩
            rintro ⟨rfl, rfl⟩
            exact hcomment ⟨[], comment, rfl⟩
      have hmark : (c == '*' && d == '/') = false := by simpa using hd
      have hrest := ih fun h => hcomment (h.trans (List.suffix_cons c comment).isInfix)
      rw [hbehind] at hrest
      rw [List.cons_append, hbehind, stripFrom, hmark]
      exact hrest

/-- The scan of a line comment ends in front of the line break. -/
theorem stripFrom_lineComment {comment : List Char} (hcomment : '\n' ∉ comment)
    (rest : List Char) :
    style.stripFrom .lineComment (comment ++ '\n' :: rest)
      = '\n' :: style.stripFrom .code rest := by
  induction comment with
  | nil => rw [List.nil_append, stripFrom, if_pos (beq_self_eq_true _)]
  | cons c comment ih =>
      obtain ⟨hc, hcomment⟩ := not_or.mp (mt List.mem_cons.mpr hcomment)
      rw [List.cons_append, stripFrom, if_neg (by simpa using Ne.symm hc)]
      exact ih hcomment

variable {style}

section Between

variable {before comment : List Char} (hbefore : style.placeAfter .code before = .code)

include hbefore

theorem KeepsGaps.strip_gap (hgaps : style.KeepsGaps) {c : Char} (hc : c = '\n' ∨ c = ' ')
    (rest : List Char) :
    style.strip (before ++ c :: rest) = style.strip before ++ c :: style.stripFrom .code rest := by
  have hseam : ∀ e ∈ before.getLast?, ∀ d ∈ (c :: rest).head?, style.isMark e d = false := by
    rintro e - d hd
    cases hd
    exact hgaps.isMark_right hc
  rw [strip, style.stripFrom_append_of_code hbefore hseam, hgaps.stripFrom_cons hc]
  rfl

/-- A block comment is a space, unless its first character ends another mark. -/
theorem KeepsGaps.strip_blockComment (hgaps : style.KeepsGaps)
    (hlast : ∀ c ∈ before.getLast?, style.isMark c '/' = false)
    (hcomment : ¬ ['*', '/'] <:+: comment) (rest : List Char) :
    style.strip (before ++ '/' :: '*' :: (comment ++ '*' :: '/' :: rest))
      = style.strip (before ++ ' ' :: rest) := by
  have hline : ('/' == style.lineMark && '*' == style.lineMark) = false := by
    rw [Bool.and_eq_false_iff, beq_eq_false_iff_ne, beq_eq_false_iff_ne]
    by_contra hboth
    obtain ⟨hslash, hstar⟩ := not_or.mp hboth
    exact absurd ((not_not.mp hslash).trans (not_not.mp hstar).symm) (by decide)
  have hopens : style.stripFrom .code ('/' :: '*' :: (comment ++ '*' :: '/' :: rest))
      = ' ' :: style.stripFrom .code rest := by
    rw [stripFrom, hline]
    exact style.stripFrom_blockComment hcomment rest
  have hseam : ∀ c ∈ before.getLast?, ∀ d ∈ ('/' :: '*' :: (comment ++ '*' :: '/' :: rest)).head?,
      style.isMark c d = false := by
    rintro c hc d hd
    cases hd
    exact hlast c hc
  rw [hgaps.strip_gap hbefore (Or.inr rfl), strip, style.stripFrom_append_of_code hbefore hseam,
    hopens]
  rfl

/-- A line comment is nothing in front of its line break, unless its first character ends another
mark. -/
theorem KeepsGaps.strip_lineComment (hgaps : style.KeepsGaps)
    (hlast : ∀ c ∈ before.getLast?, style.isMark c style.lineMark = false)
    (hcomment : '\n' ∉ comment) (rest : List Char) :
    style.strip (before ++ style.lineMark :: style.lineMark :: (comment ++ '\n' :: rest))
      = style.strip (before ++ '\n' :: rest) := by
  have hopens : style.stripFrom .code
      (style.lineMark :: style.lineMark :: (comment ++ '\n' :: rest))
        = '\n' :: style.stripFrom .code rest := by
    rw [stripFrom, beq_self_eq_true, Bool.and_self, if_pos rfl]
    exact style.stripFrom_lineComment hcomment rest
  have hseam : ∀ c ∈ before.getLast?,
      ∀ d ∈ (style.lineMark :: style.lineMark :: (comment ++ '\n' :: rest)).head?,
        style.isMark c d = false := by
    rintro c hc d hd
    cases hd
    exact hlast c hc
  rw [hgaps.strip_gap hbefore (Or.inl rfl), strip, style.stripFrom_append_of_code hbefore hseam,
    hopens]
  rfl

end Between

/-- The quote that is open at a place behind a text is open behind what is left of the text. -/
theorem KeepsGaps.openQuote_stripFrom (hgaps : style.KeepsGaps) (place : Place)
    (text : List Char) :
    openQuote style.quotes place.quote? (style.stripFrom place text)
      = (style.placeAfter place text).quote? := by
  have hgap : ∀ c, c = '\n' ∨ c = ' ' → quoteAfter style.quotes none c = none := by
    intro c hc
    rw [quoteAfter, (hgaps c hc).2]
    rfl
  have hinLine : Place.lineComment.quote? = none := rfl
  have hinBlock : Place.blockComment.quote? = none := rfl
  fun_induction placeAfter style place text with
  | case1 place => rw [stripFrom, openQuote_nil]
  | case2 c =>
      rw [stripFrom, openQuote_cons, openQuote_nil, enter_eq, Place.quote?_ofQuote]
      rfl
  | case3 c d rest hcd ih =>
      rw [stripFrom, if_pos hcd]
      exact ih
  | case4 c d rest hline hcd ih =>
      rw [stripFrom, if_neg hline, if_pos hcd]
      exact ih
  | case5 c d rest hline hblock ih =>
      rw [stripFrom, if_neg hline, if_neg hblock, openQuote_cons, ← ih, enter_eq,
        Place.quote?_ofQuote]
      rfl
  | case6 quote c rest ih =>
      rw [stripFrom, openQuote_cons, ← ih, ofQuote_quoteAfter, Place.quote?_ofQuote]
      rfl
  | case7 c rest ih =>
      rw [stripFrom]
      by_cases hbreak : (c == '\n') = true
      · rw [if_pos hbreak] at ih
        rw [if_pos hbreak, if_pos hbreak, openQuote_cons, ← ih, hinLine,
          hgap c (Or.inl (beq_iff_eq.mp hbreak))]
        rfl
      · rw [if_neg hbreak] at ih
        rw [if_neg hbreak, if_neg hbreak]
        exact ih
  | case8 c => rfl
  | case9 c d rest hend ih =>
      rw [stripFrom, if_pos hend, openQuote_cons, ← ih, hinBlock, hgap ' ' (Or.inr rfl)]
      rfl
  | case10 c d rest hend ih =>
      rw [stripFrom, if_neg hend]
      exact ih

end CommentStyle

end RelSchema.Text
