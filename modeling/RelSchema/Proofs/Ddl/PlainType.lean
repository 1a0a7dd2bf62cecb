import RelSchema.Proofs.Ddl.Default

/-!
# Plain types

A plain type is a bare word followed by phrases such as the one for time zones, each behind one
space, and by texts in parentheses that hold neither quotes nor parentheses. It stands in a clause
as it is, and it is read up to its end.
-/

namespace RelSchema.Ddl

open Sql (SelfContained isWordPart)
open Text (IsReserved)

/-- The words of a phrase, each behind one space, in some case. -/
inductive Phrase : List String → List Char → Prop
  | nil : Phrase [] []
  | cons {word : String} {words : List String} {w text : List Char}
      (hupper : Text.upper (.ofList w) = word) (htext : Phrase words text) :
      Phrase (word :: words) (' ' :: (w ++ text))

inductive PlainTail : List Char → Prop
  | nil : PlainTail []
  | phrase {words : List String} {text tail : List Char} (hwords : words ∈ typeSuffixes)
      (htext : Phrase words text) (htail : PlainTail tail) : PlainTail (text ++ tail)
  | group {inner tail : List Char}
      (hinner : ∀ c ∈ inner, Sql.isQuote c = false ∧ c ≠ '(' ∧ c ≠ ')')
      (hline : ¬ ['-', '-'] <:+: inner) (hblock : ¬ ['/', '*'] <:+: inner)
      (htail : PlainTail tail) : PlainTail ('(' :: inner ++ ')' :: tail)

/-- Whether a text is a type that is spelled by a bare word and what may follow it. -/
structure PlainType (word tail : List Char) : Prop where
  ne_nil : word ≠ []
  code : ∀ c ∈ word, Text.isBlank c = false ∧ Sql.isQuote c = false ∧ c ≠ '(' ∧ c ≠ ')' ∧
    c ≠ ',' ∧ c ≠ ';'
  line : ¬ ['-', '-'] <:+: word
  block : ¬ ['/', '*'] <:+: word
  not_serial : Text.upper (.ofList word) ∉ serialTypes
  tail : PlainTail tail

/-- Whether the last character of a text, if there is one, is no blank. -/
def EndsInCode (text : List Char) : Prop :=
  ∀ c ∈ text.getLast?, Text.isBlank c = false

instance (text : List Char) : Decidable (EndsInCode text) :=
  inferInstanceAs (Decidable (∀ c ∈ text.getLast?, Text.isBlank c = false))

theorem EndsInCode.append {a b : List Char} (ha : EndsInCode a) (hb : EndsInCode b) :
    EndsInCode (a ++ b) := by
  intro c hc
  rw [List.getLast?_append] at hc
  cases hlast : b.getLast? with
  | none =>
      rw [hlast] at hc
      exact ha c hc
  | some last =>
      rw [hlast] at hc
      exact hb c (hlast.trans hc)

theorem head?_phrase {words : List String} {text : List Char} (h : Phrase words text) :
    ∀ c ∈ text.head?, c = ' ' := by
  cases h with
  | nil => simp
  | cons hupper htext =>
      intro c hc
      cases hc
      rfl

theorem head?_plainTail {tail : List Char} (h : PlainTail tail) :
    ∀ c ∈ tail.head?, c = ' ' ∨ c = '(' := by
  induction h with
  | nil => simp
  | phrase hwords htext htail ih =>
      exact head?_append_of (fun c hc => Or.inl (head?_phrase htext c hc)) ih
  | group hinner hline hblock htail ih =>
      intro c hc
      cases hc
      exact Or.inr rfl

theorem not_isWordPart_head?_plainTail {tail : List Char} (h : PlainTail tail) :
    ∀ c ∈ tail.head?, isWordPart c = false := by
  intro c hc
  rcases head?_plainTail h c hc with rfl | rfl <;> decide

theorem isMark_head?_plainTail {tail : List Char} (h : PlainTail tail) :
    ∀ c : Char, ∀ d ∈ tail.head?, Sql.commentStyle.isMark c d = false := by
  intro c d hd
  rcases head?_plainTail h d hd with rfl | rfl <;>
    exact Sql.isMark_of_right (by decide) (by decide)

/-- A phrase of words without reserved characters spells these words and stands for itself. -/
theorem Phrase.spells {words : List String} {text : List Char} (h : Phrase words text)
    (hwords : ∀ word ∈ words, word ≠ "" ∧ ∀ c ∈ word.toList, ¬ IsReserved c) :
    Spells words text ∧ SelfContained ',' text ∧ EndsInCode text := by
  induction h with
  | nil => exact ⟨.nil, .nil ',', by simp [EndsInCode]⟩
  | @cons word words w text hupper htext ih =>
      obtain ⟨hspells, hcontained, hends⟩ :=
        ih fun other hother => hwords other (List.mem_cons_of_mem word hother)
      obtain ⟨hne, hreserved⟩ := hwords word List.mem_cons_self
      have hw : IsSingleWord w := by
        refine isSingleWord_of_all ?_ (Text.not_isReserved_of_upper hupper hreserved)
        rintro rfl
        exact hne hupper.symm
      have hend : ∀ c ∈ text.head?, isWordPart c = false := by
        intro c hc
        rw [head?_phrase htext c hc]
        decide
      refine ⟨hspells.cons_space hend hw.ne_nil hw.isWordPart hupper, ?_, ?_⟩
      · have hspace : SelfContained ',' [' '] := by decide
        refine hspace.append (hw.selfContained.append hcontained ?_) ?_
        · intro c _ d hd
          rw [head?_phrase htext d hd]
          exact isMark_space_right c
        · intro c hc d _
          cases hc
          exact isMark_space_left d
      · rw [← List.singleton_append, ← List.append_assoc]
        refine EndsInCode.append ?_ hends
        intro c hc
        rw [List.getLast?_append] at hc
        cases hlast : w.getLast? with
        | none => exact absurd (List.getLast?_eq_none_iff.mp hlast) hw.ne_nil
        | some last =>
            rw [hlast] at hc
            exact hw.trimmed.last c (hlast.trans hc)

/-- What follows the bare word of a plain type belongs to it, stands for itself and ends in no
blank. -/
theorem PlainTail.typeTail {tail : List Char} (h : PlainTail tail) :
    TypeTail tail ∧ SelfContained ',' tail ∧ EndsInCode tail := by
  have hsuffixes : ∀ words ∈ typeSuffixes, ∀ word ∈ words,
      word ≠ "" ∧ ∀ c ∈ word.toList, ¬ IsReserved c := by decide
  induction h with
  | nil => exact ⟨.nil, .nil ',', by simp [EndsInCode]⟩
  | @phrase words text tail hwords htext htail ih =>
      obtain ⟨htype, hcontained, hends⟩ := ih
      obtain ⟨hspells, htextContained, htextEnds⟩ := htext.spells (hsuffixes words hwords)
      refine ⟨.phrase hwords hspells (not_isWordPart_head?_plainTail htail) htype,
        htextContained.append hcontained fun c _ => isMark_head?_plainTail htail c,
        htextEnds.append hends⟩
  | @group inner tail hinner hline hblock htail ih =>
      obtain ⟨htype, hcontained, hends⟩ := ih
      have hbalanced : Sql.Balanced inner := .of_code hinner
      have hgroup : SelfContained ',' ('(' :: inner ++ [')']) :=
        .parenthesized ',' hbalanced (Sql.Unmarked.of_pairs hline hblock none)
      have hsplit : '(' :: inner ++ ')' :: tail = ('(' :: inner ++ [')']) ++ tail := by simp
      rw [hsplit]
      refine ⟨?_, hgroup.append hcontained fun c _ => isMark_head?_plainTail htail c, ?_⟩
      · rw [← hsplit]
        exact .group (List.forall_mem_nil _) hbalanced htype
      · refine EndsInCode.append ?_ hends
        intro c hc
        rw [List.getLast?_append] at hc
        cases hc
        decide

namespace PlainType

variable {word tail : List Char}

theorem isWordPart (h : PlainType word tail) : ∀ c ∈ word, isWordPart c = true := by
  intro c hc
  obtain ⟨hblank, hquote, hopen, hclose, -, -⟩ := h.code c hc
  refine Sql.isWordPart_iff.mpr ⟨hquote, hopen, hclose, ?_⟩
  by_contra hseparator
  have hblank' := Text.isBlank_of_isSeparator (by simpa using hseparator)
  rw [hblank] at hblank'
  cases hblank'

theorem selfContained (h : PlainType word tail) : SelfContained ',' (word ++ tail) := by
  have hword : SelfContained ',' word := by
    refine .of_word h.isWordPart ?_ (Sql.Unmarked.of_pairs h.line h.block none)
    intro hmem
    exact (h.code ',' hmem).2.2.2.2.1 rfl
  exact hword.append h.tail.typeTail.2.1 fun c _ => isMark_head?_plainTail h.tail c

theorem endsInCode (h : PlainType word tail) : EndsInCode (word ++ tail) :=
  EndsInCode.append (fun c hc => (h.code c (List.mem_of_mem_getLast? hc)).1) h.tail.typeTail.2.2

end PlainType

theorem plainType_of_word {word tail : List Char} (hne : word ≠ [])
    (hcode : ∀ c ∈ word, Text.isBlank c = false ∧ Sql.isQuote c = false ∧ c ≠ '(' ∧ c ≠ ')' ∧
      c ≠ ',' ∧ c ≠ ';') (hslash : '/' ∉ word) (hhyphen : '-' ∉ word)
    (hserial : Text.upper (.ofList word) ∉ serialTypes) (htail : PlainTail tail) :
    PlainType word tail where
  ne_nil := hne
  code := hcode
  line := fun hpair => hhyphen (hpair.subset (by simp))
  block := fun hpair => hslash (hpair.subset (by simp))
  not_serial := hserial
  tail := htail

theorem plainType_text : PlainType "TEXT".toList [] :=
  plainType_of_word (by decide) (by decide) (by decide) (by decide) (by decide) .nil

end RelSchema.Ddl
