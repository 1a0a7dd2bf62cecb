import RelSchema.Models.Comment
import RelSchema.Proofs.Sql.Contained
import RelSchema.Proofs.Text.Cut

/-!
# Comments of scripts and model sources

Main statement: removing comments a second time changes nothing, in scripts and in sources, and
where a script stands outside quotes and comments, a block comment there is the same as a space, and
a line comment the same as its line break alone.
-/

namespace RelSchema

theorem Models.keepsGaps_commentStyle : Models.commentStyle.KeepsGaps := by
  rintro c (rfl | rfl) <;> exact ⟨by decide, by decide⟩

namespace Sql

section Code

variable {before comment : List Char}
  (hbefore : commentStyle.placeAfter .code before = .code)

include hbefore

theorem stripComments_blockComment (hcomment : ¬ ['*', '/'] <:+: comment) (rest : List Char) :
    stripComments (before ++ '/' :: '*' :: (comment ++ '*' :: '/' :: rest))
      = stripComments (before ++ ' ' :: rest) :=
  keepsGaps_commentStyle.strip_blockComment hbefore
    (fun _ _ => isMark_of_right (by decide) (by decide)) hcomment rest

/-- A line comment behind a text that ends in code, but not in a hyphen, leaves its line break. -/
theorem stripComments_lineComment (hlast : before.getLast? ≠ some '-') (hcomment : '\n' ∉ comment)
    (rest : List Char) :
    stripComments (before ++ '-' :: '-' :: (comment ++ '\n' :: rest))
      = stripComments (before ++ '\n' :: rest) := by
  have hseam : ∀ c ∈ before.getLast?, commentStyle.isMark c '-' = false := by
    intro c hc
    have hhyphen : c ≠ '-' := by
      rintro rfl
      exact hlast hc
    simp [Text.CommentStyle.isMark, commentStyle, hhyphen]
  exact keepsGaps_commentStyle.strip_lineComment hbefore hseam hcomment rest

end Code

/-- Comments are removed at once, and each one is the same as the gap that it leaves. -/
theorem stripComments_gap :
    (∀ script, stripComments (stripComments script) = stripComments script) ∧
    (∀ source, Models.stripComments (Models.stripComments source) = Models.stripComments source) ∧
    ∀ before comment rest, commentStyle.placeAfter .code before = .code →
      (¬ ['*', '/'] <:+: comment →
        stripComments (before ++ ['/', '*'] ++ comment ++ ['*', '/'] ++ rest)
          = stripComments (before ++ [' '] ++ rest)) ∧
      ('\n' ∉ comment → before.getLast? ≠ some '-' →
        stripComments (before ++ ['-', '-'] ++ comment ++ ['\n'] ++ rest)
          = stripComments (before ++ ['\n'] ++ rest)) := by
  refine ⟨keepsGaps_commentStyle.strip_strip, Models.keepsGaps_commentStyle.strip_strip, ?_⟩
  intro before comment rest hbefore
  constructor
  · intro hcomment
    have hspace := stripComments_blockComment hbefore hcomment rest
    simpa using hspace
  · intro hcomment hlast
    have hbreak := stripComments_lineComment hbefore hlast hcomment rest
    simpa using hbreak

/-- Marks of comments stand in the quotes in front of the comment, and quotes in the comment. -/
theorem stripComments_gap_quoted :
    let before := "name TEXT DEFAULT 'it''s -- /*'".toList
    let comment := "'; -- \"(/* /".toList
    let rest := "'*/', id INT".toList
    commentStyle.placeAfter .code before = .code ∧ ¬ ['*', '/'] <:+: comment ∧
      '\n' ∉ comment ∧ before.getLast? ≠ some '-' ∧
      stripComments (stripComments (before ++ comment)) = stripComments (before ++ comment) ∧
      Models.stripComments (Models.stripComments (before ++ comment))
        = Models.stripComments (before ++ comment) ∧
      stripComments (before ++ ['/', '*'] ++ comment ++ ['*', '/'] ++ rest)
        = stripComments (before ++ [' '] ++ rest) ∧
      stripComments (before ++ ['-', '-'] ++ comment ++ ['\n'] ++ rest)
        = stripComments (before ++ ['\n'] ++ rest) := by
  intro before comment rest
  have hcode : commentStyle.placeAfter .code before = .code := by decide
  have hblock : ¬ ['*', '/'] <:+: comment := by
    rw [← Text.occursIn_iff]
    decide
  have hline : '\n' ∉ comment := by decide
  have hlast : before.getLast? ≠ some '-' := by decide
  obtain ⟨htwice, htwice', hgap⟩ := stripComments_gap
  obtain ⟨hspace, hbreak⟩ := hgap before comment rest hcode
  exact ⟨hcode, hblock, hline, hlast, htwice _, htwice' _, hspace hblock, hbreak hline hlast⟩

end Sql

end RelSchema
