import RelSchema.Proofs.Sql.Group
import RelSchema.Proofs.Sql.Split
import RelSchema.Proofs.Text.Comment
import RelSchema.Sql.Quote

/-!
# Texts that no scan looks out of

A text is self-contained if a scan of a statement that enters it in code leaves it in code: it is
balanced, it has no comment, and it is cut at no separator. Such a text keeps its meaning wherever
it is put. Quoted runs and texts in parentheses are self-contained, whatever stands inside the
quotes, and so are texts put together from self-contained ones.
-/

namespace RelSchema.Sql

open Text (openQuote)

theorem keepsGaps_commentStyle : commentStyle.KeepsGaps := by
  rintro c (rfl | rfl) <;> exact ⟨by decide, by decide⟩

theorem isMark_of_right {c d : Char} (hline : d ≠ '-') (hblock : d ≠ '*') :
    commentStyle.isMark c d = false := by
  simp [Text.CommentStyle.isMark, commentStyle, hline, hblock]

theorem isMark_of_left {c d : Char} (hline : c ≠ '-') (hblock : c ≠ '/') :
    commentStyle.isMark c d = false := by
  simp [Text.CommentStyle.isMark, commentStyle, hline, hblock]

theorem isMark_of_isQuote_right {c quote : Char} (hquote : isQuote quote = true) :
    commentStyle.isMark c quote = false := by
  refine isMark_of_right ?_ ?_ <;> rintro rfl <;> exact absurd hquote (by decide)

theorem isMark_of_isQuote_left {quote d : Char} (hquote : isQuote quote = true) :
    commentStyle.isMark quote d = false := by
  refine isMark_of_left ?_ ?_ <;> rintro rfl <;> exact absurd hquote (by decide)

def Unmarked (text : List Char) : Prop :=
  commentStyle.unmarked none text = true

instance (text : List Char) : Decidable (Unmarked text) :=
  inferInstanceAs (Decidable (_ = _))

theorem stripComments_eq_self {text : List Char} (h : Unmarked text) : stripComments text = text :=
  commentStyle.stripFrom_eq_self h

theorem unmarked_stripComments (text : List Char) : Unmarked (stripComments text) :=
  keepsGaps_commentStyle.unmarked_strip text

namespace Level

theorem quote?_of_after? {level last : Level} {text : List Char} (h : level.after? text = some last) :
    openQuote quotes level.quote? text = last.quote? := by
  induction text generalizing level with
  | nil =>
      cases h
      rfl
  | cons c text ih =>
      obtain ⟨mid, hnext, hrest⟩ := after?_cons_eq_some_iff.mp h
      rw [Text.openQuote_cons, ← (eq_of_next? hnext).1]
      exact ih hrest

end Level

theorem Balanced.openQuote_eq {text : List Char} (h : Balanced text) :
    openQuote quotes none text = none :=
  Level.quote?_of_after? h

namespace Unmarked

theorem append {a b : List Char} (ha : Unmarked a) (hb : Unmarked b)
    (hclosed : openQuote quotes none a = none)
    (hseam : ∀ c ∈ a.getLast?, ∀ d ∈ b.head?, commentStyle.isMark c d = false) :
    Unmarked (a ++ b) := by
  refine commentStyle.unmarked_append ha ?_ hseam
  rw [show commentStyle.quotes = quotes from rfl, hclosed]
  exact hb

theorem of_append_left {a b : List Char} (hab : Unmarked (a ++ b)) : Unmarked a :=
  commentStyle.unmarked_of_append_left hab

theorem of_append_right {a b : List Char} (hab : Unmarked (a ++ b))
    (hclosed : openQuote quotes none a = none) : Unmarked b := by
  have hb := commentStyle.unmarked_of_append_right hab
  rwa [show commentStyle.quotes = quotes from rfl, hclosed] at hb

/-- A text with neither of the marks is unmarked. -/
theorem of_pairs {text : List Char} (hline : ¬ ['-', '-'] <:+: text) (hblock : ¬ ['/', '*'] <:+: text)
    (quote? : Option Char) : commentStyle.unmarked quote? text = true := by
  induction text generalizing quote? with
  | nil => rfl
  | cons c text ih =>
      refine commentStyle.unmarked_cons_iff.mpr ⟨Or.inr ?_, ih ?_ ?_ _⟩
      · cases text with
        | nil => rfl
        | cons d text =>
            have hmark : commentStyle.isMark c d = false := by
              by_contra hmark
              have hcd : (c = '-' ∧ d = '-') ∨ (c = '/' ∧ d = '*') := by
                simpa only [Text.CommentStyle.isMark, commentStyle, Bool.not_eq_false,
                  Bool.or_eq_true, Bool.and_eq_true, beq_iff_eq] using hmark
              rcases hcd with ⟨rfl, rfl⟩ | ⟨rfl, rfl⟩
              · exact hline ⟨[], text, rfl⟩
              · exact hblock ⟨[], text, rfl⟩
            simpa using hmark
      · exact fun h => hline (h.trans (List.suffix_cons c text).isInfix)
      · exact fun h => hblock (h.trans (List.suffix_cons c text).isInfix)

end Unmarked

/-- Whether a text leaves nothing open, is cut at no separator and has no comment. -/
structure SelfContained (separator : Char) (text : List Char) : Prop where
  balanced : Balanced text
  whole : IsWhole separator text
  unmarked : Unmarked text

instance (separator : Char) (text : List Char) : Decidable (SelfContained separator text) :=
  decidable_of_iff (Balanced text ∧ IsWhole separator text ∧ Unmarked text)
    ⟨fun ⟨hbalanced, hwhole, hunmarked⟩ => ⟨hbalanced, hwhole, hunmarked⟩,
      fun h => ⟨h.balanced, h.whole, h.unmarked⟩⟩

/-- In a quoted run a text is not cut, doubled quotes included. -/
theorem segmentsFrom_doubled {separator quote : Char} (hquote : isQuote quote = true) (depth : Nat)
    (s rest : List Char) :
    segmentsFrom separator (some quote) depth (Naming.doubled quote s ++ rest)
      = attach (Naming.doubled quote s) (segmentsFrom separator (some quote) depth rest) := by
  induction s with
  | nil => exact (attach_nil_segmentsFrom ..).symm
  | cons c s ih =>
      by_cases hc : c = quote
      · subst hc
        have hlevel : Level.next? ⟨none, depth⟩ c = some ⟨some c, depth⟩ :=
          Level.next?_quote hquote depth
        rw [doubled_cons_self, List.cons_append, List.cons_append,
          segmentsFrom_cons_of_next? (Level.next?_quoted c depth c) rfl,
          quoteAfter_self,
          segmentsFrom_cons_of_next? hlevel (by simp [isCut, hquote]), ih,
          attach_attach, attach_attach]
        rfl
      · rw [doubled_cons_of_ne hc, List.cons_append,
          segmentsFrom_cons_of_next?
            (Level.next?_quoted quote depth c) rfl, quoteAfter_of_ne hc, ih, attach_attach]
        rfl

theorem segmentsFrom_enclosed {separator quote : Char} (hquote : isQuote quote = true) (depth : Nat)
    (s rest : List Char) :
    segmentsFrom separator none depth (Naming.enclosed quote s ++ rest)
      = attach (Naming.enclosed quote s) (segmentsFrom separator none depth rest) := by
  have hopen : Level.next? ⟨none, depth⟩ quote = some ⟨some quote, depth⟩ :=
    Level.next?_quote hquote depth
  have hclose : Level.next? ⟨some quote, depth⟩ quote = some ⟨none, depth⟩ := by
    rw [Level.next?_quoted, quoteAfter_self]
  rw [Naming.enclosed, List.cons_append, List.cons_append, List.append_assoc, List.cons_append,
    List.nil_append, segmentsFrom_cons_of_next? hopen (by simp [isCut, hquote]),
    segmentsFrom_doubled hquote, segmentsFrom_cons_of_next? hclose rfl, attach_attach,
    attach_attach]
  rfl

theorem unmarked_doubled {quote : Char} (hquote : isQuote quote = true) (s rest : List Char)
    (hrest : commentStyle.unmarked (some quote) rest = true) :
    commentStyle.unmarked (some quote) (Naming.doubled quote s ++ rest) = true := by
  have hnone : quoteAfter quotes (some quote) quote = none := quoteAfter_self quote
  have hsome : quoteAfter quotes none quote = some quote := quoteAfter_of_isQuote hquote
  induction s with
  | nil => exact hrest
  | cons c s ih =>
      by_cases hc : c = quote
      · subst hc
        rw [doubled_cons_self, List.cons_append, List.cons_append]
        refine commentStyle.unmarked_cons_iff.mpr ⟨Or.inl rfl, ?_⟩
        rw [show commentStyle.quotes = quotes from rfl, hnone]
        refine commentStyle.unmarked_cons_iff.mpr ⟨Or.inr ?_, ?_⟩
        · cases hnext : (Naming.doubled c s ++ rest).head? with
          | none => rfl
          | some d => exact isMark_of_isQuote_left hquote
        · rw [show commentStyle.quotes = quotes from rfl, hsome]
          exact ih
      · rw [doubled_cons_of_ne hc, List.cons_append]
        refine commentStyle.unmarked_cons_iff.mpr ⟨Or.inl rfl, ?_⟩
        rw [show commentStyle.quotes = quotes from rfl, quoteAfter_of_ne hc]
        exact ih

namespace SelfContained

theorem nil (separator : Char) : SelfContained separator [] :=
  ⟨.nil, .nil separator, rfl⟩

theorem append {separator : Char} {a b : List Char} (ha : SelfContained separator a)
    (hb : SelfContained separator b)
    (hseam : ∀ c ∈ a.getLast?, ∀ d ∈ b.head?, commentStyle.isMark c d = false) :
    SelfContained separator (a ++ b) where
  balanced := ha.balanced.append hb.balanced
  whole := ha.whole.append ha.balanced hb.whole
  unmarked := ha.unmarked.append hb.unmarked ha.balanced.openQuote_eq hseam

/-- A text in parentheses is self-contained if it leaves nothing open and has no comment. -/
theorem parenthesized (separator : Char) {text : List Char} (hbalanced : Balanced text)
    (hunmarked : Unmarked text) : SelfContained separator ('(' :: text ++ [')']) where
  balanced := hbalanced.parenthesized
  whole := .parenthesized separator hbalanced
  unmarked := by
    have hopen : Unmarked ('(' :: text) := by
      refine Unmarked.append (a := ['(']) (by decide) hunmarked (by decide) ?_
      intro c hc d _
      cases hc
      exact isMark_of_left (by decide) (by decide)
    refine hopen.append (b := [')']) (by decide) ?_ ?_
    · exact hbalanced.openQuote_eq
    · intro c _ d hd
      cases hd
      exact isMark_of_right (by decide) (by decide)

/-- A quoted run is self-contained, whatever it holds. -/
theorem enclosed {separator quote : Char} (hquote : isQuote quote = true) (s : List Char) :
    SelfContained separator (Naming.enclosed quote s) where
  balanced := Level.after?_enclosed hquote 0 s
  whole := by
    have hsegments := @segmentsFrom_enclosed separator quote hquote 0 s []
    rw [List.append_nil] at hsegments
    rw [IsWhole, segments, hsegments, segmentsFrom, attach, List.append_nil]
  unmarked := by
    rw [Naming.enclosed, List.cons_append]
    refine commentStyle.unmarked_cons_iff.mpr ⟨Or.inr ?_, ?_⟩
    · cases hnext : (Naming.doubled quote s ++ [quote]).head? with
      | none => rfl
      | some d => exact isMark_of_isQuote_left hquote
    · rw [show commentStyle.quotes = quotes from rfl, quoteAfter_of_isQuote hquote]
      exact unmarked_doubled hquote s [quote]
        (commentStyle.unmarked_cons_iff.mpr ⟨Or.inl rfl, rfl⟩)

/-- A text of code without parentheses and separators is self-contained if it has no comment. -/
theorem of_all {separator : Char} {text : List Char}
    (hcode : ∀ c ∈ text, isQuote c = false ∧ c ≠ '(' ∧ c ≠ ')') (hcut : separator ∉ text)
    (hunmarked : Unmarked text) : SelfContained separator text where
  balanced := .of_code hcode
  whole := by
    rw [IsWhole, segments]
    clear hunmarked
    induction text with
    | nil => rfl
    | cons c text ih =>
        obtain ⟨hquote, hopen, hclose⟩ := hcode c List.mem_cons_self
        have hne : c ≠ separator := fun h => hcut (h ▸ List.mem_cons_self)
        rw [segmentsFrom_cons_of_next?
          (Level.next?_code hquote hopen hclose 0) (by simp [isCut, hne]),
          ih (fun d hd => hcode d (List.mem_cons_of_mem c hd))
            (fun h => hcut (List.mem_cons_of_mem c h))]
        rfl
  unmarked := hunmarked

theorem of_word {separator : Char} {w : List Char} (hw : ∀ c ∈ w, isWordPart c = true)
    (hcut : separator ∉ w) (hunmarked : Unmarked w) : SelfContained separator w := by
  refine .of_all (fun c hc => ?_) hcut hunmarked
  obtain ⟨hquote, hopen, hclose, _⟩ := isWordPart_iff.mp (hw c hc)
  exact ⟨hquote, hopen, hclose⟩

/-- Blanks around a self-contained text change nothing. -/
theorem of_blank {separator : Char} (hseparator : Text.isBlank separator = false)
    {gap : List Char} (hgap : ∀ c ∈ gap, Text.isBlank c = true) : SelfContained separator gap := by
  have hne : ∀ c ∈ gap, ∀ d, Text.isBlank d = false → c ≠ d :=
    fun c hc d hd => Text.ne_of_isBlank (hgap c hc) hd
  refine .of_all (fun c hc => ⟨?_, hne c hc _ (by decide), hne c hc _ (by decide)⟩) ?_ ?_
  · have hquotes : ∀ quote ∈ quotes, Text.isBlank quote = false := by decide
    simp only [isQuote, Bool.eq_false_iff, ne_eq, List.contains_iff_mem]
    exact fun hmem => hne c hc c (hquotes c hmem) rfl
  · exact fun hmem => hne separator hmem separator hseparator rfl
  · refine Unmarked.of_pairs ?_ ?_ none
    · rintro ⟨before, after, rfl⟩
      exact hne '-' (by simp) '-' (by decide) rfl
    · rintro ⟨before, after, rfl⟩
      exact hne '/' (by simp) '/' (by decide) rfl

end SelfContained

theorem exists_stripComments_cons {c : Char} {rest : List Char}
    (hmark : rest.head?.any (commentStyle.isMark c) = false) :
    ∃ rest', stripComments (c :: rest) = c :: rest' := by
  have hmark' : (none : Option Char).isSome ∨ rest.head?.any (commentStyle.isMark c) = false :=
    Or.inr hmark
  exact ⟨_, commentStyle.stripFrom_cons_of_unmarked hmark'⟩

/-- Comments are taken off a text part by part where the first part ends in code. -/
theorem stripComments_append {a : List Char} (ha : Unmarked a)
    (hclosed : openQuote quotes none a = none) (hlast : ∀ c ∈ a.getLast?, c ≠ '-' ∧ c ≠ '/')
    (rest : List Char) : stripComments (a ++ rest) = a ++ stripComments rest := by
  have hunmarked : Unmarked (a ++ rest.take 1) := by
    refine ha.append ?_ hclosed fun c hc d _ => isMark_of_left (hlast c hc).1 (hlast c hc).2
    cases rest with
    | nil => rfl
    | cons d rest => exact commentStyle.unmarked_cons_iff.mpr ⟨Or.inr rfl, rfl⟩
  have hstrip := commentStyle.stripFrom_append_of_unmarked hunmarked
  rwa [show commentStyle.quotes = quotes from rfl, hclosed] at hstrip

structure IsSeparating (separator : Char) : Prop where
  ne_opening : separator ≠ '('
  ne_closing : separator ≠ ')'
  not_isQuote : isQuote separator = false
  not_isBlank : Text.isBlank separator = false

theorem isSeparating_comma : IsSeparating ',' := by
  constructor <;> decide

theorem isSeparating_semicolon : IsSeparating ';' := by
  constructor <;> decide

/-- A text that starts and ends in something other than a blank. -/
structure Trimmed (text : List Char) : Prop where
  ne_nil : text ≠ []
  first : ∀ c ∈ text.head?, Text.isBlank c = false
  last : ∀ c ∈ text.getLast?, Text.isBlank c = false

/-- A trimmed text is kept when it is trimmed together with what follows. -/
theorem Trimmed.exists_trim_append {text : List Char} (h : Trimmed text) (rest : List Char) :
    ∃ kept gap, Text.trim (text ++ rest) = text ++ kept ∧ rest = kept ++ gap ∧
      ∀ c ∈ gap, Text.isBlank c = true := by
  have hfirst : ∀ c ∈ (text ++ rest).head?, Text.isBlank c = false := by
    obtain ⟨c, others, htext⟩ := List.exists_cons_of_ne_nil h.ne_nil
    intro d hd
    refine h.first d ?_
    rw [htext] at hd ⊢
    exact hd
  obtain ⟨gap, hsplit, hgap⟩ := Text.exists_eq_trim_append hfirst
  rcases List.append_eq_append_iff.mp hsplit with ⟨kept, htrim, hrest⟩ | ⟨tail, htext, htail⟩
  · exact ⟨kept, gap, htrim, hrest, hgap⟩
  · obtain rfl : tail = [] := by
      by_contra hne
      have hlast := List.getLast?_eq_some_getLast hne
      have hblank := hgap _ (htail ▸ List.mem_append_left rest (List.mem_of_getLast? hlast))
      rw [h.last _ (by rw [htext, List.getLast?_append_of_ne_nil _ hne]; exact hlast)] at hblank
      cases hblank
    rw [List.append_nil] at htext
    exact ⟨[], rest, by rw [← htext, List.append_nil], rfl, by simpa [htail] using hgap⟩

theorem splitTopLevel_append {separator : Char} (hseparator : IsSeparating separator)
    {gap text gap' : List Char} (hgap : ∀ c ∈ gap, Text.isBlank c = true)
    (hgap' : ∀ c ∈ gap', Text.isBlank c = true) (hbalanced : Balanced text)
    (hwhole : IsWhole separator text) (htrimmed : Trimmed text) (rest : List Char) :
    splitTopLevel separator (gap ++ text ++ gap' ++ separator :: rest)
      = text :: splitTopLevel separator rest := by
  have hfront := SelfContained.of_blank hseparator.not_isBlank hgap
  have hback := SelfContained.of_blank hseparator.not_isBlank hgap'
  have hboth := hfront.balanced.append hbalanced
  have hparts := segments_append_separator hseparator.ne_opening hseparator.ne_closing
    hseparator.not_isQuote ((hfront.whole.append hfront.balanced hwhole).append hboth hback.whole)
    (hboth.append hback.balanced) rest
  rw [splitTopLevel, hparts, List.map_cons, Text.trim_append_append hgap hgap' htrimmed.first
    htrimmed.last, List.filter_cons_of_pos]
  · rfl
  · simpa using htrimmed.ne_nil

theorem splitTopLevel_eq_singleton {separator : Char} (hseparator : IsSeparating separator)
    {gap text gap' : List Char} (hgap : ∀ c ∈ gap, Text.isBlank c = true)
    (hgap' : ∀ c ∈ gap', Text.isBlank c = true) (hbalanced : Balanced text)
    (hwhole : IsWhole separator text) (htrimmed : Trimmed text) :
    splitTopLevel separator (gap ++ text ++ gap') = [text] := by
  have hfront := SelfContained.of_blank hseparator.not_isBlank hgap
  have hback := SelfContained.of_blank hseparator.not_isBlank hgap'
  have hall : segments separator (gap ++ text ++ gap') = [gap ++ text ++ gap'] :=
    (hfront.whole.append hfront.balanced hwhole).append (hfront.balanced.append hbalanced)
      hback.whole
  rw [splitTopLevel, hall, List.map_singleton, Text.trim_append_append hgap hgap' htrimmed.first
    htrimmed.last, List.filter_cons_of_pos]
  · rfl
  · simpa using htrimmed.ne_nil

theorem splitTopLevel_gap {separator : Char} (hseparator : IsSeparating separator)
    {gap : List Char} (hgap : ∀ c ∈ gap, Text.isBlank c = true) (rest : List Char) :
    splitTopLevel separator (gap ++ rest) = splitTopLevel separator rest := by
  have hfront := SelfContained.of_blank hseparator.not_isBlank hgap
  have hparts : segments separator (gap ++ rest) = attach gap (segments separator rest) :=
    segments_append_of_whole hfront.whole hfront.balanced rest
  rw [splitTopLevel, splitTopLevel, hparts]
  cases hrest : segments separator rest with
  | nil => exact absurd hrest (segmentsFrom_ne_nil _ _ _ _)
  | cons segment segments =>
      have htrim : Text.trim (gap ++ segment) = Text.trim segment := by
        rw [Text.trim, Text.trimLeft_append_of_all hgap, ← Text.trim]
      rw [attach, List.map_cons, htrim, List.map_cons]

end RelSchema.Sql
