import RelSchema.Proofs.Sql.Code
import RelSchema.Proofs.Text.Class

/-!
# Parts of self-contained texts

What the scans cut out of a text inherits its properties: the statements and definitions of a text
without comments have none either, the inside of the first pair of parentheses leaves nothing open,
and neither does a definition between the commas of such an inside.
-/

namespace RelSchema.Sql

open Text (openQuote)

theorem isQuote_of_quoteAfter {quote? : Option Char} (hopen : ∀ quote ∈ quote?, isQuote quote = true)
    (c : Char) : ∀ quote ∈ quoteAfter quotes quote? c, isQuote quote = true := by
  intro quote hquote
  cases quote? with
  | none =>
      by_cases hc : isQuote c = true
      · rw [quoteAfter_of_isQuote hc] at hquote
        cases hquote
        exact hc
      · rw [quoteAfter_of_not_isQuote (by simpa using hc)] at hquote
        cases hquote
  | some first =>
      by_cases hc : c = first
      · subst hc
        rw [quoteAfter_self] at hquote
        cases hquote
      · rw [quoteAfter_of_ne hc] at hquote
        exact hopen quote hquote

theorem isQuote_of_openQuote {quote? : Option Char} (hopen : ∀ quote ∈ quote?, isQuote quote = true)
    (text : List Char) : ∀ quote ∈ openQuote quotes quote? text, isQuote quote = true := by
  induction text generalizing quote? with
  | nil => exact hopen
  | cons c text ih => exact ih (isQuote_of_quoteAfter hopen c)

theorem not_isQuote_of_isBlank {c : Char} (hc : Text.isBlank c = true) : isQuote c = false := by
  have hquotes : ∀ quote ∈ quotes, Text.isBlank quote = false := by decide
  by_contra hquote
  have hmem : c ∈ quotes := by simpa [isQuote] using hquote
  rw [hquotes c hmem] at hc
  cases hc

theorem openQuote_of_blank {gap : List Char} (hgap : ∀ c ∈ gap, Text.isBlank c = true) :
    openQuote quotes none gap = none := by
  induction gap with
  | nil => rfl
  | cons c gap ih =>
      rw [Text.openQuote_cons,
        quoteAfter_of_not_isQuote (not_isQuote_of_isBlank (hgap c List.mem_cons_self))]
      exact ih fun d hd => hgap d (List.mem_cons_of_mem c hd)

theorem Unmarked.trim {text : List Char} (h : Unmarked text) : Unmarked (Text.trim text) := by
  obtain ⟨before, after, htext, hbefore, -⟩ := Text.exists_eq_append_trim text
  rw [htext, List.append_assoc] at h
  exact (h.of_append_right (openQuote_of_blank hbefore)).of_append_left

theorem unmarked_cons_of_cons {quote? : Option Char} {c : Char} {rest segment tail : List Char}
    (h : commentStyle.unmarked quote? (c :: rest) = true) (hrest : rest = segment ++ tail)
    (hsegment : commentStyle.unmarked (quoteAfter quotes quote? c) segment = true) :
    commentStyle.unmarked quote? (c :: segment) = true := by
  rw [commentStyle.unmarked_cons_iff] at h ⊢
  refine ⟨?_, hsegment⟩
  rcases h.1 with hquote | hmark
  · exact Or.inl hquote
  · refine Or.inr ?_
    cases segment with
    | nil => rfl
    | cons d segment =>
        rw [hrest] at hmark
        exact hmark

/-- The parts of an unmarked text are unmarked, and the first one is the front of the text. -/
theorem exists_segmentsFrom {separator : Char} (hseparator : isQuote separator = false)
    {quote? : Option Char} {depth : Nat} {text : List Char}
    (h : commentStyle.unmarked quote? text = true) :
    ∃ first others tail, segmentsFrom separator quote? depth text = first :: others ∧
      text = first ++ tail ∧ commentStyle.unmarked quote? first = true ∧
      ∀ other ∈ others, Unmarked other := by
  induction text generalizing quote? depth with
  | nil => exact ⟨[], [], [], rfl, rfl, rfl, by simp⟩
  | cons c text ih =>
      by_cases hcut : (quote? == none && isCut separator depth c) = true
      · rw [segmentsFrom_cons, if_pos hcut]
        obtain ⟨hnone, hcut⟩ : quote? = none ∧ isCut separator depth c = true := by
          simpa using hcut
        have hc : c = separator := by
          simp only [isCut, Bool.and_eq_true, beq_iff_eq] at hcut
          exact hcut.1.1.1.1
        have hrest := (commentStyle.unmarked_cons_iff.mp h).2
        rw [hnone, show commentStyle.quotes = quotes from rfl, hc,
          quoteAfter_of_not_isQuote hseparator] at hrest
        obtain ⟨first, others, tail, hsegments, -, hfirst, hothers⟩ := ih hrest
        refine ⟨[], first :: others, c :: text, by rw [hsegments], rfl, rfl, ?_⟩
        intro other hother
        rcases List.mem_cons.mp hother with rfl | hother
        · exact hfirst
        · exact hothers other hother
      · rw [segmentsFrom_cons, if_neg hcut]
        have hrest := (commentStyle.unmarked_cons_iff.mp h).2
        obtain ⟨first, others, tail, hsegments, htext, hfirst, hothers⟩ :=
          ih hrest
        refine ⟨c :: first, others, tail, ?_, by rw [htext]; rfl,
          unmarked_cons_of_cons h htext hfirst, hothers⟩
        rw [show commentStyle.quotes = quotes from rfl] at hsegments
        rw [hsegments]
        rfl

theorem unmarked_of_mem_splitTopLevel {separator : Char} (hseparator : isQuote separator = false)
    {text part : List Char} (h : Unmarked text) (hpart : part ∈ splitTopLevel separator text) :
    Unmarked part := by
  obtain ⟨segment, hsegment, rfl⟩ := List.mem_map.mp (List.mem_of_mem_filter hpart)
  obtain ⟨first, others, tail, hsegments, -, hfirst, hothers⟩ :=
    exists_segmentsFrom hseparator h
  rw [segments, hsegments] at hsegment
  rcases List.mem_cons.mp hsegment with rfl | hother
  · exact Unmarked.trim hfirst
  · exact (hothers segment hother).trim

/-- A part of a text between separators stands alone if the text is read down to its start. -/
theorem balanced_segmentsFrom {separator : Char} (hseparator : IsSeparating separator)
    {level : Level} {text : List Char} (h : level.after? text = some {}) :
    ∃ first others, segmentsFrom separator level.quote? level.depth text = first :: others ∧
      level.after? first = some {} ∧
      segmentsFrom separator level.quote? level.depth first = [first] ∧
      ∀ other ∈ others, Balanced other ∧ IsWhole separator other := by
  induction text generalizing level with
  | nil => exact ⟨[], [], rfl, h, rfl, by simp⟩
  | cons c text ih =>
      obtain ⟨next, hnext, hrest⟩ := Level.after?_cons_eq_some_iff.mp h
      obtain ⟨first, others, hsegments, hfirst, hwhole, hothers⟩ := ih hrest
      by_cases hcut : (level.quote? == none && isCut separator level.depth c) = true
      · obtain ⟨hnone, hcut'⟩ : level.quote? = none ∧ isCut separator level.depth c = true := by
          simpa using hcut
        simp only [isCut, Bool.and_eq_true, beq_iff_eq] at hcut'
        have hc : c = separator := hcut'.1.1.1.1
        have hlevel : level = {} := by
          obtain ⟨quote?, depth⟩ := level
          rw [show quote? = none from hnone, show depth = 0 from hcut'.1.1.1.2]
        have hnext' : next = {} := by
          rw [hlevel, Level.next?_code (by rw [hc]; exact hseparator.not_isQuote)
            (by rw [hc]; exact hseparator.ne_opening) (by rw [hc]; exact hseparator.ne_closing)]
            at hnext
          exact (Option.some.inj hnext).symm
        refine ⟨[], first :: others, ?_, by rw [hlevel]; rfl, rfl, ?_⟩
        · rw [segmentsFrom_cons, if_pos hcut, hlevel]
          rw [hnext'] at hsegments
          rw [hsegments]
        · intro other hother
          rw [hnext'] at hfirst hwhole
          rcases List.mem_cons.mp hother with rfl | hother
          · exact ⟨hfirst, hwhole⟩
          · exact hothers other hother
      · have hcut' := Bool.eq_false_iff.mpr hcut
        refine ⟨c :: first, others, ?_, Level.after?_cons_eq_some_iff.mpr ⟨next, hnext, hfirst⟩, ?_,
          hothers⟩
        · rw [segmentsFrom_cons_of_next? hnext hcut', hsegments]
          rfl
        · rw [segmentsFrom_cons_of_next? hnext hcut', hwhole]
          rfl

/-- Code without parentheses at the end of a balanced text changes nothing. -/
theorem Balanced.of_append_code {text code : List Char} (h : Balanced (text ++ code))
    (hcode : ∀ c ∈ code, isQuote c = false ∧ c ≠ '(' ∧ c ≠ ')') : Balanced text := by
  induction code using List.reverseRecOn with
  | nil => rwa [List.append_nil] at h
  | append_singleton code c ih =>
      refine ih ?_ fun d hd => hcode d (List.mem_append_left [c] hd)
      rw [← List.append_assoc] at h
      obtain ⟨level, hlevel, hlast⟩ := Level.after?_append_eq_some_iff.mp h
      obtain ⟨next, hnext, hnil⟩ := Level.after?_cons_eq_some_iff.mp hlast
      cases hnil
      obtain ⟨hnotQuote, hopening, hclosing⟩ := hcode c (by simp)
      obtain ⟨hquote, hdepth⟩ := Level.eq_of_next? hnext
      have hclosed : level.quote? = none := by
        cases hopen : level.quote? with
        | none => rfl
        | some quote =>
            have hisQuote : isQuote quote = true := by
              have hnone : ∀ quote ∈ (none : Option Char), isQuote quote = true := by simp
              refine isQuote_of_openQuote hnone (text ++ code) quote ?_
              rw [Level.quote?_of_after? hlevel, hopen]
              rfl
            have hne : c ≠ quote := by
              rintro rfl
              rw [hnotQuote] at hisQuote
              cases hisQuote
            rw [hopen, quoteAfter_of_ne hne] at hquote
            cases hquote
      have hzero : level.depth = 0 := by
        rw [hclosed] at hdepth
        simpa [depthAfter, hopening, hclosing] using hdepth.symm
      obtain ⟨quote?, depth⟩ := level
      rw [show quote? = none from hclosed, show depth = 0 from hzero] at hlevel
      exact hlevel

theorem isCode_of_isBlank {c : Char} (hc : Text.isBlank c = true) :
    isQuote c = false ∧ c ≠ '(' ∧ c ≠ ')' :=
  ⟨not_isQuote_of_isBlank hc, Text.ne_of_isBlank hc (by decide), Text.ne_of_isBlank hc (by decide)⟩

theorem Balanced.of_append_blank {text gap : List Char} (h : Balanced (text ++ gap))
    (hgap : ∀ c ∈ gap, Text.isBlank c = true) : Balanced text :=
  h.of_append_code fun c hc => isCode_of_isBlank (hgap c hc)

/-- A trimmed text leaves nothing open and is cut nowhere if the text does not and is not. -/
theorem trim_balanced_whole {separator : Char} {text : List Char} (hbalanced : Balanced text)
    (hwhole : IsWhole separator text) (hseparator : IsSeparating separator) :
    Balanced (Text.trim text) ∧ IsWhole separator (Text.trim text) := by
  obtain ⟨before, after, htext, hbefore, hafter⟩ := Text.exists_eq_append_trim text
  have hfront := SelfContained.of_blank hseparator.not_isBlank hbefore
  rw [htext, List.append_assoc] at hbalanced hwhole
  have hrest := hbalanced.of_append hfront.balanced
  have htrim := hrest.of_append_blank hafter
  exact ⟨htrim, (hwhole.of_append_right hfront.balanced.clampedAfter_eq).of_append_left⟩

/-- The parts of a balanced text between separators are self-contained. -/
theorem selfContained_of_mem_splitTopLevel {separator : Char} (hseparator : IsSeparating separator)
    {text part : List Char} (hbalanced : Balanced text) (hunmarked : Unmarked text)
    (hpart : part ∈ splitTopLevel separator text) : SelfContained separator part := by
  have hpart' := unmarked_of_mem_splitTopLevel hseparator.not_isQuote hunmarked hpart
  obtain ⟨segment, hsegment, rfl⟩ := List.mem_map.mp (List.mem_of_mem_filter hpart)
  obtain ⟨first, others, hsegments, hfirst, hwhole, hothers⟩ :=
    balanced_segmentsFrom hseparator hbalanced
  have hsegment' : segment ∈ first :: others := by
    rw [← hsegments]
    exact hsegment
  obtain ⟨hbalanced', hwhole'⟩ : Balanced segment ∧ IsWhole separator segment := by
    rcases List.mem_cons.mp hsegment' with rfl | hother
    · exact ⟨hfirst, hwhole⟩
    · exact hothers segment hother
  obtain ⟨htrimBalanced, htrimWhole⟩ := trim_balanced_whole hbalanced' hwhole' hseparator
  exact ⟨htrimBalanced, htrimWhole, hpart'⟩

namespace Brackets

/-- The first pair of parentheses in the text stands behind `before` and encloses `inner`. -/
structure Finds (quote? : Option Char) (position : Nat) (text before inner : List Char) : Prop where
  exists_after : ∃ after, text = before ++ '(' :: (inner ++ ')' :: after)
  findFrom_eq : findFrom {} quote? position text
    = some (position + before.length, position + before.length + 1 + inner.length)

/-- A text that the search passes over stands in front of what it finds. -/
theorem Finds.append {quote? quote' : Option Char} {position : Nat}
    {text before inner : List Char} (front : List Char)
    (h : Finds quote' (position + front.length) text before inner)
    (hfront : findFrom {} quote? position (front ++ text)
      = findFrom {} quote' (position + front.length) text) :
    Finds quote? position (front ++ text) (front ++ before) inner := by
  obtain ⟨after, htext⟩ := h.exists_after
  refine ⟨⟨after, ?_⟩, ?_⟩
  · rw [htext, List.append_assoc]
  · rw [hfront, h.findFrom_eq, List.length_append, ← Nat.add_assoc]

theorem Finds.inside_eq {text before inner : List Char} (h : Finds none 0 text before inner) :
    inside {} text = inner := by
  obtain ⟨after, htext⟩ := h.exists_after
  have hfind := h.findFrom_eq
  rw [Nat.zero_add] at hfind
  have hsplit : text = (before ++ ['(']) ++ (inner ++ ')' :: after) := by
    rw [htext, List.append_assoc]
    rfl
  have hlength : before.length + 1 = (before ++ ['(']).length := by
    rw [List.length_append, List.length_singleton]
  have hcount : before.length + 1 + inner.length - before.length - 1 = inner.length := by omega
  unfold inside find?
  rw [hfind]
  dsimp only
  rw [hcount, hsplit, hlength, List.drop_left, List.take_left]

/-- The first pair of parentheses stands behind a text that closes its quotes. -/
theorem exists_of_findFrom {quote? : Option Char} {position : Nat} {text : List Char}
    {found : Nat × Nat} (h : findFrom {} quote? position text = some found) :
    ∃ before inner, Finds quote? position text before inner ∧
      openQuote Sql.quotes quote? before = none ∧ Balanced inner := by
  rcases findFrom_cases quote? position text with ⟨hnone, -⟩ |
    ⟨before, rest, rfl, hquote, -, hfind⟩
  · rw [hnone] at h
    cases h
  · obtain ⟨close, hclose, -⟩ := Option.map_eq_some_iff.mp (hfind.symm.trans h)
    obtain ⟨inner, after, rfl, hinner, rfl⟩ := exists_balanced_of_closeFrom hclose
    refine ⟨before, inner, ⟨⟨after, rfl⟩, ?_⟩, hquote, hinner⟩
    rw [hfind, hclose]
    rfl

/-- The inside of the first parentheses leaves nothing open and keeps the absence of comments. -/
theorem inside_contained {text : List Char} (h : Unmarked text) :
    Balanced (inside {} text) ∧ Unmarked (inside {} text) := by
  cases hfind : find? {} text with
  | none =>
      rw [inside, hfind]
      exact ⟨.nil, rfl⟩
  | some found =>
      obtain ⟨before, inner, hfinds, hquote, hinner⟩ := exists_of_findFrom hfind
      obtain ⟨after, rfl⟩ := hfinds.exists_after
      have hsplit : before ++ '(' :: (inner ++ ')' :: after)
          = (before ++ ['(']) ++ (inner ++ ')' :: after) := by simp
      have hclosedQuote : openQuote Sql.quotes none (before ++ ['(']) = none := by
        rw [Text.openQuote_append, hquote]
        decide
      rw [hfinds.inside_eq]
      rw [hsplit] at h
      exact ⟨hinner, (h.of_append_right hclosedQuote).of_append_left⟩

end Brackets

theorem Lexeme.openQuote_eq {token : Token} {lexeme rest : List Char}
    (h : Lexeme token lexeme rest) : openQuote quotes none lexeme = none ∨ rest = [] := by
  rcases h.after?_cases with ⟨-, rfl⟩ | ⟨-, rfl⟩ | ⟨-, quote?, hquote, hlevel⟩
  · exact Or.inl (by decide)
  · exact Or.inl (by decide)
  · rcases hquote with rfl | hrest
    · exact Or.inl (Level.quote?_of_after? (hlevel 0))
    · exact Or.inr hrest

/-- Behind a token, quotes are closed unless the text ends there. -/
theorem exists_append_of_mem_tokensFrom {position : Nat} {text : List Char} {token : Token}
    (h : token ∈ tokensFrom position .nothing text) :
    ∃ before after, text = before ++ after ∧ token.stop = position + before.length ∧
      (openQuote quotes none before = none ∨ after = []) := by
  generalize htokens : tokensFrom position .nothing text = tokens at h
  induction tokens generalizing position text with
  | nil => cases h
  | cons first tokens ih =>
      obtain ⟨gap, lexeme, rest, rfl, hgap, hlexeme, hstart, hstop, hrest⟩ := exists_lexeme htokens
      have hgapQuote : openQuote quotes none gap = none :=
        openQuote_of_blank fun c hc => Text.isBlank_of_isSeparator (hgap c hc)
      have hfront : openQuote quotes none (gap ++ lexeme) = none ∨ rest = [] := by
        rw [Text.openQuote_append, hgapQuote]
        exact hlexeme.openQuote_eq
      rcases List.mem_cons.mp h with rfl | hmem
      · refine ⟨gap ++ lexeme, rest, by simp, ?_, hfront⟩
        rw [hstop, hstart, List.length_append]
        omega
      · obtain ⟨before, after, rfl, hposition, hclosed⟩ := ih hrest hmem
        refine ⟨gap ++ lexeme ++ before, after, by simp, ?_, ?_⟩
        · rw [hposition, hstop, hstart]
          simp only [List.length_append]
          omega
        · rcases hfront with hnone | hnil
          · rw [Text.openQuote_append, hnone]
            exact hclosed
          · exact Or.inr (List.append_eq_nil_iff.mp hnil).2

theorem unmarked_drop_of_mem_tokens {text : List Char} (h : Unmarked text) {token : Token}
    (htoken : token ∈ tokenize text) : Unmarked (text.drop token.stop) := by
  obtain ⟨before, after, rfl, hstop, hclosed⟩ := exists_append_of_mem_tokensFrom htoken
  rw [Nat.zero_add] at hstop
  rw [hstop, List.drop_left]
  rcases hclosed with hnone | hnil
  · exact h.of_append_right hnone
  · rw [hnil]
    rfl

end RelSchema.Sql
