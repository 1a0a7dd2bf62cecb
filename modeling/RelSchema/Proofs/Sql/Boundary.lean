import RelSchema.Proofs.Sql.Contained

/-!
# Boundaries between statements

Where a script leaves no quote, comment and parenthesis open, a semicolon ends its last statement,
whatever the script is and whatever stands behind the semicolon.
-/

namespace RelSchema.Sql

open Text (openQuote)

namespace Level

theorem quote?_clampedAfter (level : Level) (text : List Char) :
    (level.clampedAfter text).quote? = openQuote quotes level.quote? text := by
  induction text generalizing level with
  | nil => rfl
  | cons c text ih => exact ih (level.clampedNext c)

/-- A text is cut in code, and only at a character that changes no level. -/
theorem clampedNext_of_isCut {separator : Char} {level : Level} {c : Char}
    (hcut : (level.quote? == none && isCut separator level.depth c) = true) :
    level.quote? = none ∧ level.clampedNext c = ⟨none, level.depth⟩ := by
  obtain ⟨quote?, depth⟩ := level
  simp only [Bool.and_eq_true, beq_iff_eq, isCut, bne_iff_ne, ne_eq, Bool.not_eq_true'] at hcut
  obtain ⟨rfl, ⟨⟨⟨-, -⟩, hopening⟩, hclosing⟩, hquote⟩ := hcut
  refine ⟨rfl, ?_⟩
  simp [clampedNext, quoteAfter_of_not_isQuote hquote, depthAfter, hopening, hclosing]

end Level

theorem attach_append (a : List Char) {front : List (List Char)} (hfront : front ≠ [])
    (back : List (List Char)) : attach a (front ++ back) = attach a front ++ back := by
  cases front with
  | nil => exact absurd rfl hfront
  | cons segment segments => rfl

/-- A separator behind a text that leaves nothing open parts the text from what follows. -/
theorem segmentsFrom_append_separator {separator : Char} (hseparator : IsSeparating separator)
    {level : Level} {a : List Char} (ha : level.clampedAfter a = {}) (b : List Char) :
    segmentsFrom separator level.quote? level.depth (a ++ separator :: b)
      = segmentsFrom separator level.quote? level.depth a ++ segments separator b := by
  induction a generalizing level with
  | nil =>
      obtain rfl : level = {} := ha
      have hcut : ((none : Option Char) == none && isCut separator 0 separator) = true := by
        simp [isCut, hseparator.ne_opening, hseparator.ne_closing, hseparator.not_isQuote]
      rw [List.nil_append, segmentsFrom_cons, if_pos hcut]
      rfl
  | cons c a ih =>
      rw [Level.clampedAfter_cons] at ha
      rw [List.cons_append, segmentsFrom_cons, segmentsFrom_cons]
      -- A cut changes no level; any other character goes to the front of the first segment, which
      -- stands in `a` since `a` has at least one segment.
      by_cases hcut : (level.quote? == none && isCut separator level.depth c) = true
      · obtain ⟨-, hnext⟩ := Level.clampedNext_of_isCut hcut
        rw [hnext] at ha
        rw [if_pos hcut, if_pos hcut, List.cons_append]
        exact congrArg ([] :: ·) (ih ha)
      · have hrest := @ih (level.clampedNext c) ha
        have hne := segmentsFrom_ne_nil separator (level.clampedNext c).quote?
          (level.clampedNext c).depth a
        rw [if_neg hcut, if_neg hcut]
        exact (congrArg (attach [c]) hrest).trans (attach_append [c] hne _)

theorem splitTopLevel_append_separator {separator : Char} (hseparator : IsSeparating separator)
    {a : List Char} (ha : Level.clampedAfter {} a = {}) (b : List Char) :
    splitTopLevel separator (a ++ separator :: b)
      = splitTopLevel separator a ++ splitTopLevel separator b := by
  have hparts := @segmentsFrom_append_separator separator hseparator {} a ha b
  unfold splitTopLevel
  rw [segments, hparts, List.map_append, List.filter_append]
  rfl

/-- Whether a new statement can start behind a script and a semicolon: the script ends outside
quotes and comments, and no parenthesis is open in what is left of it without comments. -/
structure IsClosed (script : List Char) : Prop where
  ends_in_code : commentStyle.placeAfter .code script = .code
  depth_eq : (Level.clampedAfter {} (stripComments script)).depth = 0

instance (script : List Char) : Decidable (IsClosed script) :=
  decidable_of_iff (commentStyle.placeAfter .code script = .code ∧
    (Level.clampedAfter {} (stripComments script)).depth = 0)
    ⟨fun h => ⟨h.1, h.2⟩, fun h => ⟨h.ends_in_code, h.depth_eq⟩⟩

namespace IsClosed

variable {script : List Char}

theorem clampedAfter_eq (h : IsClosed script) :
    Level.clampedAfter {} (stripComments script) = {} := by
  have hquote : openQuote quotes none (stripComments script) = none := by
    have hkept := keepsGaps_commentStyle.openQuote_stripFrom .code script
    rw [h.ends_in_code] at hkept
    exact hkept
  have hlevel : ∀ level : Level, level.quote? = none → level.depth = 0 → level = {} := by
    rintro ⟨quote?, depth⟩ rfl rfl
    rfl
  exact hlevel _ ((Level.quote?_clampedAfter {} _).trans hquote) h.depth_eq

theorem stripComments_append (h : IsClosed script) (rest : List Char) :
    stripComments (script ++ ';' :: rest) = stripComments script ++ ';' :: stripComments rest := by
  have hseam : ∀ c ∈ script.getLast?, ∀ d ∈ (';' :: rest).head?,
      commentStyle.isMark c d = false := by
    rintro c - d hd
    cases hd
    exact isMark_of_right (by decide) (by decide)
  have hmark : rest.head?.any (commentStyle.isMark ';') = false := by
    cases rest with
    | nil => rfl
    | cons d rest => exact isMark_of_left (by decide) (by decide)
  have hsemicolon : stripComments (';' :: rest) = ';' :: stripComments rest :=
    @Text.CommentStyle.stripFrom_cons_of_unmarked commentStyle none ';' rest (Or.inr hmark)
  calc stripComments (script ++ ';' :: rest)
      = stripComments script ++ stripComments (';' :: rest) :=
        commentStyle.stripFrom_append_of_code h.ends_in_code hseam
    _ = stripComments script ++ ';' :: stripComments rest := by rw [hsemicolon]

/-- The statements of two scripts with a semicolon between them are those of the first script and
then those of the second. -/
theorem statements_append (h : IsClosed script) (rest : List Char) :
    statements (stripComments (script ++ ';' :: rest))
      = statements (stripComments script) ++ statements (stripComments rest) := by
  rw [h.stripComments_append]
  exact splitTopLevel_append_separator isSeparating_semicolon h.clampedAfter_eq _

end IsClosed

end RelSchema.Sql
