import RelSchema.Proofs.Sql.Part
import RelSchema.Proofs.Text.Cut

/-!
# The parts between separators

A text is divided at its separators outside quotes and parentheses, and nowhere else. `EndsInCode`
tells these places by what stands in front of them: characters of code, which open and close
parentheses, and whole runs in quotes. Main statement: the parts, with the separator between them,
are the text, and what is left of them after trimming is divided no further.
-/

namespace RelSchema.Sql

/-- Whether a text ends outside quotes, with the given number of parentheses open. A closing one
that has none to close is passed over. -/
inductive EndsInCode : List Char → Nat → Prop
  | nil : EndsInCode [] 0
  | opening {text : List Char} {depth : Nat} (h : EndsInCode text depth) :
      EndsInCode (text ++ ['(']) (depth + 1)
  | closing {text : List Char} {depth : Nat} (h : EndsInCode text depth) :
      EndsInCode (text ++ [')']) (depth - 1)
  | other {text : List Char} {depth : Nat} {c : Char} (h : EndsInCode text depth)
      (hquote : isQuote c = false) (hopening : c ≠ '(') (hclosing : c ≠ ')') :
      EndsInCode (text ++ [c]) depth
  | quoted {text : List Char} {depth : Nat} {quote : Char} (h : EndsInCode text depth)
      (hquote : isQuote quote = true) (s : List Char) :
      EndsInCode (text ++ Naming.enclosed quote s) depth

namespace Level

theorem clampedAfter_concat (level : Level) (text : List Char) (c : Char) :
    level.clampedAfter (text ++ [c]) = (level.clampedAfter text).clampedNext c :=
  clampedAfter_append level text [c]

theorem clampedNext_of_not_isQuote {c : Char} (hc : isQuote c = false) (depth : Nat) :
    clampedNext ⟨none, depth⟩ c = ⟨none, depthAfter depth c⟩ := by
  rw [clampedNext, quoteAfter_of_not_isQuote hc]
  rfl

theorem clampedNext_quoted (quote : Char) (depth : Nat) (c : Char) :
    clampedNext ⟨some quote, depth⟩ c = ⟨quoteAfter quotes (some quote) c, depth⟩ := rfl

theorem clampedNext_of_isQuote {quote : Char} (hquote : isQuote quote = true) (depth : Nat) :
    clampedNext ⟨none, depth⟩ quote = ⟨some quote, depth⟩ :=
  clampedNext_of_next? (next?_quote hquote depth)

end Level

namespace EndsInCode

open Level

theorem code {text : List Char} {depth : Nat} {c : Char} (h : EndsInCode text depth)
    (hc : isQuote c = false) : EndsInCode (text ++ [c]) (depthAfter depth c) := by
  by_cases hopening : c = '('
  · rw [hopening]
    exact h.opening
  by_cases hclosing : c = ')'
  · rw [hclosing]
    exact h.closing
  · have hdepth : depthAfter depth c = depth := by simp [depthAfter, hopening, hclosing]
    rw [hdepth]
    exact h.other hc hopening hclosing

theorem clampedAfter_eq {text : List Char} {depth : Nat} (h : EndsInCode text depth) :
    clampedAfter {} text = ⟨none, depth⟩ := by
  induction h with
  | nil => rfl
  | opening h ih => rw [clampedAfter_concat, ih]; rfl
  | closing h ih => rw [clampedAfter_concat, ih]; rfl
  | other h hquote hopening hclosing ih =>
      rw [clampedAfter_concat, ih, clampedNext_of_not_isQuote hquote]
      simp [depthAfter, hopening, hclosing]
  | quoted h hquote s ih =>
      rw [clampedAfter_append, ih]
      exact clampedAfter_of_after? (after?_enclosed hquote _ s)

/-- A text ends in code, or in a run whose opening quote stands behind code. -/
theorem cases_clampedAfter (text : List Char) :
    (∃ depth, clampedAfter {} text = ⟨none, depth⟩ ∧ EndsInCode text depth) ∨
      ∃ quote depth front s, clampedAfter {} text = ⟨some quote, depth⟩ ∧
        isQuote quote = true ∧ text = front ++ quote :: s ∧ quote ∉ s ∧ EndsInCode front depth := by
  induction text using List.reverseRecOn with
  | nil => exact Or.inl ⟨0, rfl, .nil⟩
  | append_singleton text c ih =>
      rw [clampedAfter_concat]
      rcases ih with ⟨depth, hlevel, hcode⟩ |
        ⟨quote, depth, front, s, hlevel, hquote, rfl, hs, hfront⟩
      · rw [hlevel]
        cases hc : isQuote c with
        | true => exact Or.inr ⟨c, depth, text, [], clampedNext_of_isQuote hc depth, hc, rfl,
            List.not_mem_nil, hcode⟩
        | false => exact Or.inl ⟨_, clampedNext_of_not_isQuote hc depth, hcode.code hc⟩
      · rw [hlevel, clampedNext_quoted]
        by_cases hc : c = quote
        · subst hc
          have henclosed : front ++ c :: s ++ [c] = front ++ Naming.enclosed c s := by
            simp [Naming.enclosed, doubled_of_not_mem hs]
          rw [quoteAfter_self, henclosed]
          exact Or.inl ⟨depth, rfl, hfront.quoted hquote s⟩
        · rw [quoteAfter_of_ne hc]
          refine Or.inr ⟨quote, depth, front, s ++ [c], rfl, hquote, by simp, ?_, hfront⟩
          simpa [hs] using Ne.symm hc

end EndsInCode

theorem endsInCode_iff {text : List Char} {depth : Nat} :
    EndsInCode text depth ↔ Level.clampedAfter {} text = ⟨none, depth⟩ := by
  refine ⟨EndsInCode.clampedAfter_eq, fun h => ?_⟩
  rcases EndsInCode.cases_clampedAfter text with ⟨depth', hlevel, hcode⟩ |
    ⟨quote, depth', front, s, hlevel, -⟩
  · rw [h] at hlevel
    cases hlevel
    exact hcode
  · rw [h] at hlevel
    cases hlevel

/-- Whether a text, in front of which the level is reached, is divided into the parts: a separator
with nothing open in front of it parts the text, and every other character goes to the front of the
first part of what follows. -/
inductive Divided (separator : Char) : Level → List Char → List (List Char) → Prop
  | nil (level : Level) : Divided separator level [] [[]]
  | cut {rest : List Char} {parts : List (List Char)} (h : Divided separator {} rest parts) :
      Divided separator {} (separator :: rest) ([] :: parts)
  | join {level : Level} {c : Char} {rest part : List Char} {parts : List (List Char)}
      (hc : ¬ (c = separator ∧ level = {}))
      (h : Divided separator (level.clampedNext c) rest (part :: parts)) :
      Divided separator level (c :: rest) ((c :: part) :: parts)

section Rules

variable {separator : Char} (hquote : isQuote separator = false) (hopening : separator ≠ '(')
  (hclosing : separator ≠ ')')

include hquote hopening hclosing

theorem isCut_iff {level : Level} {c : Char} :
    (level.quote? == none && isCut separator level.depth c) = true ↔
      c = separator ∧ level = {} := by
  obtain ⟨quote?, depth⟩ := level
  constructor
  · intro h
    simp only [Bool.and_eq_true, beq_iff_eq, isCut] at h
    obtain ⟨rfl, ⟨⟨⟨rfl, rfl⟩, -⟩, -⟩, -⟩ := h
    exact ⟨rfl, rfl⟩
  · rintro ⟨rfl, hlevel⟩
    cases hlevel
    simp [isCut, hquote, hopening, hclosing]

theorem divided_segmentsFrom (level : Level) (text : List Char) :
    Divided separator level text (segmentsFrom separator level.quote? level.depth text) := by
  induction text generalizing level with
  | nil => exact .nil level
  | cons c rest ih =>
      by_cases hcut : (level.quote? == none && isCut separator level.depth c) = true
      · rw [segmentsFrom_cons, if_pos hcut]
        obtain ⟨rfl, rfl⟩ := (isCut_iff hquote hopening hclosing).mp hcut
        exact .cut (ih {})
      · obtain ⟨part, parts, hparts⟩ := List.exists_cons_of_ne_nil
          (segmentsFrom_ne_nil separator (level.clampedNext c).quote? (level.clampedNext c).depth rest)
        have hrest := ih (level.clampedNext c)
        rw [hparts] at hrest
        rw [segmentsFrom_cons_of_not_cut hcut, hparts]
        exact .join (mt (isCut_iff hquote hopening hclosing).mpr hcut) hrest

theorem Divided.segmentsFrom_eq {level : Level} {text : List Char} {parts : List (List Char)}
    (h : Divided separator level text parts) :
    segmentsFrom separator level.quote? level.depth text = parts := by
  induction h with
  | nil => rfl
  | cut h ih =>
      rw [segmentsFrom_cons, if_pos ((isCut_iff hquote hopening hclosing).mpr ⟨rfl, rfl⟩)]
      exact congrArg ([] :: ·) ih
  | join hc h ih =>
      rw [segmentsFrom_cons_of_not_cut (mt (isCut_iff hquote hopening hclosing).mp hc), ih]
      rfl

end Rules

namespace Divided

variable {separator : Char} {level : Level} {text : List Char} {parts : List (List Char)}
  (h : Divided separator level text parts)

include h

theorem ne_nil : parts ≠ [] := by
  cases h <;> exact List.cons_ne_nil _ _

/-- With the separator between them, the parts are the text. -/
theorem intercalate_eq : [separator].intercalate parts = text := by
  induction h with
  | nil => exact List.intercalate_singleton
  | cut h ih =>
      rw [List.intercalate_cons_of_ne_nil h.ne_nil, ih]
      rfl
  | @join level c rest part parts hc h ih =>
      rw [← ih]
      exact Text.intercalate_append_cons [c]

/-- The parts meet at the separators with nothing open in front of them. -/
theorem isJoint_iff (hseparator : Level.clampedNext {} separator = {}) {i : Nat} :
    Text.IsJoint [separator] parts i ↔
      text[i]? = some separator ∧ level.clampedAfter (text.take i) = {} := by
  induction h generalizing i with
  | nil => simpa using Text.not_isJoint_singleton
  | cut h ih =>
      rw [Text.isJoint_cons_iff h.ne_nil]
      cases i with
      | zero => simp [Level.clampedAfter]
      | succ i => simp [Level.clampedAfter_cons, hseparator, ← ih, Nat.add_comm 1]
  | @join level c rest part parts hc h ih =>
      refine (Text.isJoint_append_cons_iff [c]).trans ?_
      cases i with
      | zero =>
          refine iff_of_false ?_ (by simpa [Level.clampedAfter] using hc)
          rintro ⟨j, hj, -⟩
          rw [List.length_singleton] at hj
          omega
      | succ i => simp [Level.clampedAfter_cons, ← ih, Nat.add_comm 1]

/-- No part is divided further. -/
theorem of_cons {first : List Char} {others : List (List Char)} (hparts : parts = first :: others) :
    Divided separator level first [first] ∧
      ∀ other ∈ others, Divided separator {} other [other] := by
  induction h generalizing first others with
  | nil level =>
      obtain ⟨rfl, rfl⟩ := List.cons.inj hparts
      exact ⟨.nil level, List.forall_mem_nil _⟩
  | @cut rest parts h ih =>
      obtain ⟨rfl, rfl⟩ := List.cons.inj hparts
      obtain ⟨part, parts', rfl⟩ := List.exists_cons_of_ne_nil h.ne_nil
      obtain ⟨hpart, hothers⟩ := ih rfl
      exact ⟨.nil {}, List.forall_mem_cons.mpr ⟨hpart, hothers⟩⟩
  | @join level c rest part parts hc h ih =>
      obtain ⟨rfl, rfl⟩ := List.cons.inj hparts
      obtain ⟨hpart, hothers⟩ := ih rfl
      exact ⟨.join hc hpart, hothers⟩

end Divided

theorem clampedAfter_of_blank {gap : List Char} (hgap : ∀ c ∈ gap, Text.isBlank c = true) :
    Level.clampedAfter {} gap = {} := by
  induction gap with
  | nil => rfl
  | cons c gap ih =>
      obtain ⟨hquote, hopening, hclosing⟩ := isCode_of_isBlank (hgap c List.mem_cons_self)
      have hdepth : depthAfter 0 c = 0 := by simp [depthAfter, hopening, hclosing]
      rw [Level.clampedAfter_cons, Level.clampedNext_of_not_isQuote hquote, hdepth]
      exact ih fun d hd => hgap d (List.mem_cons_of_mem c hd)

theorem IsWhole.trim {separator : Char} {part : List Char} (h : IsWhole separator part) :
    IsWhole separator (Text.trim part) := by
  obtain ⟨before, after, hpart, hbefore, -⟩ := Text.exists_eq_append_trim part
  rw [hpart, List.append_assoc] at h
  exact (h.of_append_right (clampedAfter_of_blank hbefore)).of_append_left

theorem splitTopLevel_of_whole {separator : Char} {part : List Char} (h : IsWhole separator part)
    (htrim : Text.trim part = part) (hne : part ≠ []) : splitTopLevel separator part = [part] := by
  rw [splitTopLevel, h, List.map_singleton, htrim, List.filter_cons_of_pos]
  · rfl
  · simpa using hne

section

variable {separator : Char} (hquote : isQuote separator = false) (hopening : separator ≠ '(')
  (hclosing : separator ≠ ')')

include hquote hopening hclosing

theorem whole_of_mem_segments {text part : List Char} (hpart : part ∈ segments separator text) :
    IsWhole separator part := by
  have hdivided := divided_segmentsFrom hquote hopening hclosing {} text
  obtain ⟨first, others, hparts⟩ := List.exists_cons_of_ne_nil hdivided.ne_nil
  obtain ⟨hfirst, hothers⟩ := hdivided.of_cons hparts
  have hall : ∀ part ∈ first :: others, Divided separator {} part [part] :=
    List.forall_mem_cons.mpr ⟨hfirst, hothers⟩
  exact (hall part (hparts ▸ hpart)).segmentsFrom_eq hquote hopening hclosing

/-- A text is divided at its separators outside quotes and parentheses, and nowhere else. The
trimmed parts, without empty ones, are what it is split into, and each of them splits into
itself. -/
theorem splitTopLevel_parts (text : List Char) :
    (∃ parts, [separator].intercalate parts = text ∧
      (∀ i, Text.IsJoint [separator] parts i ↔
        text[i]? = some separator ∧ EndsInCode (text.take i) 0) ∧
      splitTopLevel separator text = (parts.map Text.trim).filter (!·.isEmpty)) ∧
    ∀ part ∈ splitTopLevel separator text, splitTopLevel separator part = [part] := by
  have hdivided := divided_segmentsFrom hquote hopening hclosing {} text
  have hnext : Level.clampedNext {} separator = {} := by
    rw [Level.clampedNext_of_not_isQuote hquote, depthAfter, if_neg (by simpa using hopening),
      if_neg (by simpa using hclosing)]
  refine ⟨⟨segments separator text, hdivided.intercalate_eq, fun i => ?_, rfl⟩, fun part hpart => ?_⟩
  · rw [endsInCode_iff]
    exact hdivided.isJoint_iff hnext
  · obtain ⟨hmem, hempty⟩ := List.mem_filter.mp hpart
    obtain ⟨segment, hsegment, rfl⟩ := List.mem_map.mp hmem
    refine splitTopLevel_of_whole (whole_of_mem_segments hquote hopening hclosing hsegment).trim
      (Text.trim_trim segment) ?_
    simpa using hempty

end

/-- Blanks separate the words of a text with a stray closing parenthesis, a blank behind a doubled
quote and a run that is not closed. -/
theorem splitTopLevel_parts_blanks :
    let text := ") a  (b c) 'd''e f' \"g h  ".toList
    splitTopLevel ' ' text = [")".toList, "a".toList, "(b c)".toList, "'d''e f'".toList,
        "\"g h".toList] ∧
      (∃ parts, [' '].intercalate parts = text ∧
        (∀ i, Text.IsJoint [' '] parts i ↔ text[i]? = some ' ' ∧ EndsInCode (text.take i) 0) ∧
        splitTopLevel ' ' text = (parts.map Text.trim).filter (!·.isEmpty)) ∧
      ∀ part ∈ splitTopLevel ' ' text, splitTopLevel ' ' part = [part] := by
  intro text
  exact ⟨by decide, splitTopLevel_parts (by decide) (by decide) (by decide) text⟩

end RelSchema.Sql
