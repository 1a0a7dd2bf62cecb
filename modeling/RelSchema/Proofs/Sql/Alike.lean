import Mathlib.Data.List.Forall2
import RelSchema.Proofs.Sql.Part

/-!
# Texts alike up to literals

Two texts are alike if they differ in the contents of string literals only. A scan goes through the
same states on both, so trimming, cutting and the search for parentheses give alike texts again.
Alike texts have the same tokens up to the values of strings and to positions, and behind each pair
of tokens the texts are alike again.
-/

namespace RelSchema.Sql

open Text (openQuote)

/-- Texts behind the given open quote that are the same up to the contents of literals. -/
inductive Alike : Option Char → List Char → List Char → Prop
  | nil {quote? : Option Char} : Alike quote? [] []
  | cons {quote? : Option Char} (c : Char) {s t : List Char}
      (h : Alike (quoteAfter quotes quote? c) s t) : Alike quote? (c :: s) (c :: t)
  | literal (v w : List Char) {s t : List Char} (h : Alike none s t) :
      Alike none (Naming.enclosed '\'' v ++ s) (Naming.enclosed '\'' w ++ t)

namespace Alike

variable {quote? : Option Char} {s t : List Char}

theorem refl (quote? : Option Char) (s : List Char) : Alike quote? s s := by
  induction s generalizing quote? with
  | nil => exact .nil
  | cons c s ih => exact .cons c (ih _)

theorem append (a : List Char) (h : Alike (openQuote quotes quote? a) s t) :
    Alike quote? (a ++ s) (a ++ t) := by
  induction a generalizing quote? with
  | nil => exact h
  | cons c a ih => exact .cons c (ih h)

theorem eq_nil_iff (h : Alike quote? s t) : s = [] ↔ t = [] := by
  cases h with
  | nil => exact Iff.rfl
  | cons c h => exact iff_of_false (List.cons_ne_nil _ _) (List.cons_ne_nil _ _)
  | literal v w h => exact iff_of_false (List.cons_ne_nil _ _) (List.cons_ne_nil _ _)

theorem trimLeft (h : Alike none s t) : Alike none (Text.trimLeft s) (Text.trimLeft t) := by
  generalize hquote : none = quote? at h
  induction h with
  | nil => exact .nil
  | @cons quote? c s t h ih =>
      subst hquote
      cases hblank : Text.isBlank c with
      | true =>
          have hcode : quoteAfter quotes none c = none :=
            quoteAfter_of_not_isQuote (isCode_of_isBlank hblank).1
          have htrim : ∀ text, Text.trimLeft (c :: text) = Text.trimLeft text := by
            intro text
            exact List.dropWhile_cons_of_pos hblank
          rw [hcode] at ih
          rw [htrim, htrim]
          exact ih rfl
      | false =>
          have htrim : ∀ text, Text.trimLeft (c :: text) = c :: text := by
            intro text
            exact List.dropWhile_cons_of_neg (by rw [hblank]; exact Bool.false_ne_true)
          rw [htrim, htrim]
          exact .cons c h
  | @literal v w s t h ih =>
      have htrim : ∀ content text, Text.trimLeft (Naming.enclosed '\'' content ++ text)
          = Naming.enclosed '\'' content ++ text := by
        intro content text
        exact List.dropWhile_cons_of_neg (by decide)
      rw [htrim, htrim]
      exact .literal v w h

theorem trimRight (h : Alike quote? s t) : Alike quote? (Text.trimRight s) (Text.trimRight t) := by
  unfold Text.trimRight
  induction h with
  | nil => exact .nil
  | @cons quote? c s t h ih =>
      rw [Text.dropEndWhile_cons, Text.dropEndWhile_cons]
      by_cases hs : Text.dropEndWhile Text.isBlank s = []
      · rw [hs, ih.eq_nil_iff.mp hs]
        exact refl ..
      · have ht : Text.dropEndWhile Text.isBlank t ≠ [] := mt ih.eq_nil_iff.mpr hs
        rw [if_neg (by simpa using hs), if_neg (by simpa using ht)]
        exact .cons c ih
  | @literal v w s t h ih =>
      have hlast : ∀ content, ∀ c ∈ (Naming.enclosed '\'' content).getLast?,
          Text.isBlank c = false := by
        intro content c hc
        rw [Naming.enclosed, List.getLast?_append] at hc
        cases hc
        decide
      rw [Text.dropEndWhile_append_of_last (hlast v), Text.dropEndWhile_append_of_last (hlast w)]
      exact .literal v w ih

theorem trim (h : Alike none s t) : Alike none (Text.trim s) (Text.trim t) :=
  h.trimLeft.trimRight

/-- The first parts are alike behind the open quote, and the others stand outside quotes. -/
theorem segmentsFrom (h : Alike quote? s t) (separator : Char) (depth : Nat) :
    ∃ first first' others others',
      Sql.segmentsFrom separator quote? depth s = first :: others ∧
      Sql.segmentsFrom separator quote? depth t = first' :: others' ∧
      Alike quote? first first' ∧ List.Forall₂ (Alike none) others others' := by
  induction h generalizing depth with
  | nil => exact ⟨[], [], [], [], rfl, rfl, .nil, .nil⟩
  | @cons quote? c s t h ih =>
      rw [segmentsFrom_cons, segmentsFrom_cons]
      by_cases hcut : (quote? == none && isCut separator depth c) = true
      · obtain ⟨hnone, hc⟩ := Bool.and_eq_true_iff.mp hcut
        obtain rfl := beq_iff_eq.mp hnone
        have hcode : isQuote c = false := by
          simp only [isCut, Bool.and_eq_true, Bool.not_eq_true'] at hc
          exact hc.2
        rw [quoteAfter_of_not_isQuote hcode] at ih
        obtain ⟨first, first', others, others', hs, ht, hfirst, hothers⟩ := ih depth
        rw [if_pos hcut, if_pos hcut, hs, ht]
        exact ⟨[], [], _, _, rfl, rfl, .nil, .cons hfirst hothers⟩
      · obtain ⟨first, first', others, others', hs, ht, hfirst, hothers⟩ :=
          ih (if quote? == none then depthAfter depth c else depth)
        rw [if_neg hcut, if_neg hcut, hs, ht]
        exact ⟨_, _, _, _, rfl, rfl, .cons c hfirst, hothers⟩
  | literal v w h ih =>
      obtain ⟨first, first', others, others', hs, ht, hfirst, hothers⟩ := ih depth
      have hquote : isQuote '\'' = true := by decide
      rw [segmentsFrom_enclosed hquote, segmentsFrom_enclosed hquote, hs, ht]
      exact ⟨_, _, _, _, rfl, rfl, .literal v w hfirst, hothers⟩

theorem isEmpty_eq (h : Alike quote? s t) : s.isEmpty = t.isEmpty := by
  rw [Bool.eq_iff_iff, List.isEmpty_iff, List.isEmpty_iff]
  exact h.eq_nil_iff

theorem splitTopLevel (h : Alike none s t) (separator : Char) :
    List.Forall₂ (Alike none) (Sql.splitTopLevel separator s) (Sql.splitTopLevel separator t) := by
  obtain ⟨first, first', others, others', hs, ht, hfirst, hothers⟩ := h.segmentsFrom separator 0
  have hsegments : List.Forall₂ (Alike none) (first :: others) (first' :: others') :=
    .cons hfirst hothers
  unfold Sql.splitTopLevel segments
  rw [hs, ht]
  generalize first :: others = parts at hsegments
  generalize first' :: others' = parts' at hsegments
  induction hsegments with
  | nil => exact .nil
  | @cons part part' rest rest' hpart hrest ih =>
      rw [List.map_cons, List.map_cons, List.filter_cons, List.filter_cons, hpart.trim.isEmpty_eq]
      split_ifs
      · exact .cons hpart.trim ih
      · exact ih

/-- Both searches fail, or both find the parenthesis behind alike texts. -/
theorem closeFrom (h : Alike quote? s t) (depth position position' : Nat) :
    (Brackets.closeFrom {} quote? depth position s = none ∧
      Brackets.closeFrom {} quote? depth position' t = none) ∨
    ∃ a b a' b', s = a ++ ')' :: b ∧ t = a' ++ ')' :: b' ∧ Alike quote? a a' ∧
      Brackets.closeFrom {} quote? depth position s = some (position + a.length) ∧
      Brackets.closeFrom {} quote? depth position' t = some (position' + a'.length) := by
  induction h generalizing depth position position' with
  | nil => exact Or.inl ⟨rfl, rfl⟩
  | @cons quote? c s t h ih =>
      have hstep := fun position text => Brackets.closeFrom_cons ⟨quote?, depth⟩ position c text
      cases hnext : Level.next? ⟨quote?, depth⟩ c with
      | none =>
          simp only [hnext] at hstep
          obtain ⟨-, rfl⟩ := Level.next?_eq_none_iff.mp hnext
          exact Or.inr ⟨[], s, [], t, rfl, rfl, .nil, hstep position s, hstep position' t⟩
      | some next =>
          simp only [hnext] at hstep
          obtain ⟨hquote, -⟩ := Level.eq_of_next? hnext
          rw [hstep, hstep, hquote]
          rcases ih next.depth (position + 1) (position' + 1) with ⟨hs, ht⟩ |
            ⟨a, b, a', b', rfl, rfl, ha, hs, ht⟩
          · exact Or.inl ⟨hs, ht⟩
          · refine Or.inr ⟨c :: a, b, c :: a', b', rfl, rfl, .cons c ha, ?_, ?_⟩
            · rw [hs, List.length_cons, Nat.add_assoc, Nat.add_comm 1]
            · rw [ht, List.length_cons, Nat.add_assoc, Nat.add_comm 1]
  | @literal v w s t h ih =>
      have hquote : isQuote '\'' = true := by decide
      have hstep := fun content => Brackets.closeFrom_append (Level.after?_enclosed hquote depth content)
      simp only at hstep
      rw [hstep, hstep]
      rcases ih depth (position + (Naming.enclosed '\'' v).length)
          (position' + (Naming.enclosed '\'' w).length) with ⟨hs, ht⟩ |
        ⟨a, b, a', b', rfl, rfl, ha, hs, ht⟩
      · exact Or.inl ⟨hs, ht⟩
      · refine Or.inr ⟨Naming.enclosed '\'' v ++ a, b, Naming.enclosed '\'' w ++ a', b',
          (List.append_assoc ..).symm, (List.append_assoc ..).symm, .literal v w ha, ?_, ?_⟩
        · rw [hs, List.length_append, Nat.add_assoc]
        · rw [ht, List.length_append, Nat.add_assoc]

/-- Both texts have no pair of parentheses, or alike texts stand in the first pairs of both. -/
theorem findFrom (h : Alike quote? s t) (position position' : Nat) :
    (Brackets.findFrom {} quote? position s = none ∧
      Brackets.findFrom {} quote? position' t = none) ∨
    ∃ before inner before' inner', Alike none inner inner' ∧
      Brackets.Finds quote? position s before inner ∧
      Brackets.Finds quote? position' t before' inner' := by
  induction h generalizing position position' with
  | nil => exact Or.inl ⟨rfl, rfl⟩
  | @cons quote? c s t h ih =>
      by_cases hopening : quote? = none ∧ c = '('
      · obtain ⟨rfl, rfl⟩ := hopening
        have hstep : ∀ position text, Brackets.findFrom {} none position ('(' :: text)
            = (Brackets.closeFrom {} none 0 (position + 1) text).map
              fun close => (position, close) := fun _ _ => rfl
        have hcode : Alike none s t := h
        rcases hcode.closeFrom 0 (position + 1) (position' + 1) with ⟨hs, ht⟩ |
          ⟨a, b, a', b', rfl, rfl, ha, hs, ht⟩
        · exact Or.inl ⟨by rw [hstep, hs]; rfl, by rw [hstep, ht]; rfl⟩
        · exact Or.inr ⟨[], a, [], a', ha, ⟨⟨b, rfl⟩, by rw [hstep, hs]; rfl⟩,
            ⟨⟨b', rfl⟩, by rw [hstep, ht]; rfl⟩⟩
      · have hstep := fun position text =>
          @Brackets.findFrom_cons_of_not_opening quote? c hopening position text
        rcases ih (position + 1) (position' + 1) with ⟨hs, ht⟩ |
          ⟨before, inner, before', inner', hinner, hs, ht⟩
        · exact Or.inl ⟨by rw [hstep, hs], by rw [hstep, ht]⟩
        · exact Or.inr ⟨_, inner, _, inner', hinner, hs.append [c] (hstep position s),
            ht.append [c] (hstep position' t)⟩
  | @literal v w s t h ih =>
      have hquote : isQuote '\'' = true := by decide
      have hstep := Brackets.findFrom_enclosed hquote
      rcases ih (position + (Naming.enclosed '\'' v).length)
          (position' + (Naming.enclosed '\'' w).length) with ⟨hs, ht⟩ |
        ⟨before, inner, before', inner', hinner, hs, ht⟩
      · exact Or.inl ⟨by rw [hstep, hs], by rw [hstep, ht]⟩
      · exact Or.inr ⟨_, inner, _, inner', hinner, hs.append _ (hstep v position s),
          ht.append _ (hstep w position' t)⟩

theorem inside (h : Alike none s t) :
    Alike none (Brackets.inside {} s) (Brackets.inside {} t) := by
  rcases h.findFrom 0 0 with ⟨hs, ht⟩ | ⟨before, inner, before', inner', hinner, hs, ht⟩
  · unfold Brackets.inside Brackets.find?
    rw [hs, ht]
    exact .nil
  · rw [hs.inside_eq, ht.inside_eq]
    exact hinner

end Alike

open Pending

/-- Tokens of two texts that are the same up to positions and the values of strings, with alike
texts behind them. -/
structure Token.Alike (s t : List Char) (token other : Token) : Prop where
  kind : token.kind = other.kind
  value : token.kind ≠ .string → token.value = other.value
  quote : token.quote = other.quote
  behind : Sql.Alike none (s.drop token.stop) (t.drop other.stop)

/-- Parts of tokens that are the same up to positions and the contents of literals, where the given
quote is open. -/
inductive Pending.Alike : Option Char → Pending → Pending → Prop
  | nothing : Alike none .nothing .nothing
  | word (start start' : Nat) (letters : List Char) :
      Alike none (.word start letters) (.word start' letters)
  | run {quote : Char} (hquote : isQuote quote = true) (start start' : Nat)
      {content content' : List Char} (h : quote ≠ '\'' → content = content') :
      Alike (some quote) (.run quote start content) (.run quote start' content')
  | halted {quote : Char} (hquote : isQuote quote = true) (start start' : Nat)
      {content content' : List Char} (h : quote ≠ '\'' → content = content') :
      Alike none (.halted quote start content) (.halted quote start' content')

section Tokens

variable {s t : List Char} {position position' : Nat}

theorem alike_runToken (hbehind : Sql.Alike none (s.drop position) (t.drop position')) (quote : Char)
    (start start' : Nat) {content content' : List Char} (h : quote ≠ '\'' → content = content') :
    Token.Alike s t (runToken quote start content position)
      (runToken quote start' content' position') := by
  refine ⟨rfl, fun hkind => ?_, rfl, hbehind⟩
  have hquote : quote ≠ '\'' := by
    rintro rfl
    exact hkind rfl
  rw [runToken, runToken, h hquote]

theorem Pending.Alike.tokens {quote? : Option Char} {pending pending' : Pending}
    (h : Pending.Alike quote? pending pending')
    (hbehind : Sql.Alike none (s.drop position) (t.drop position')) :
    List.Forall₂ (Token.Alike s t) (pending.tokens position) (pending'.tokens position') := by
  cases h with
  | nothing => exact .nil
  | word start start' letters => exact .cons ⟨rfl, fun _ => rfl, rfl, hbehind⟩ .nil
  | run hquote start start' h => exact .cons (alike_runToken hbehind _ start start' h) .nil
  | halted hquote start start' h => exact .cons (alike_runToken hbehind _ start start' h) .nil

/-- A character outside runs completes tokens that are alike, and leaves alike ones pending. -/
theorem Pending.Alike.readCode {pending pending' : Pending} (h : Pending.Alike none pending pending')
    {c : Char} (hbehind : Sql.Alike none (s.drop position) (t.drop position'))
    (hnext : isQuote c = false → Sql.Alike none (s.drop (position + 1)) (t.drop (position' + 1))) :
    List.Forall₂ (Token.Alike s t) (pending.readCode position c).1
        (pending'.readCode position' c).1 ∧
      Pending.Alike (quoteAfter quotes none c) (pending.readCode position c).2
        (pending'.readCode position' c).2 := by
  have htokens := h.tokens hbehind
  unfold Pending.readCode
  by_cases hquote : isQuote c = true
  · rw [if_pos hquote, if_pos hquote, quoteAfter_of_isQuote hquote]
    exact ⟨htokens, .run hquote _ _ fun _ => rfl⟩
  · have hcode := Bool.eq_false_iff.mpr hquote
    rw [if_neg hquote, if_neg hquote, quoteAfter_of_not_isQuote hcode]
    split_ifs
    · refine ⟨List.rel_append htokens (.cons ?_ .nil), .nothing⟩
      exact ⟨rfl, fun _ => rfl, rfl, hnext hcode⟩
    · refine ⟨List.rel_append htokens (.cons ?_ .nil), .nothing⟩
      exact ⟨rfl, fun _ => rfl, rfl, hnext hcode⟩
    · exact ⟨htokens, .nothing⟩
    · cases h with
      | nothing => exact ⟨htokens, .word _ _ [c]⟩
      | word start start' letters => exact ⟨.nil, .word start start' (c :: letters)⟩
      | halted hquote start start' h => exact ⟨htokens, .word _ _ [c]⟩

theorem Pending.Alike.read {quote? : Option Char} {pending pending' : Pending}
    (h : Pending.Alike quote? pending pending') {c : Char}
    (hbehind : quote? = none → Sql.Alike none (s.drop position) (t.drop position'))
    (hnext : quote? = none → isQuote c = false →
      Sql.Alike none (s.drop (position + 1)) (t.drop (position' + 1))) :
    List.Forall₂ (Token.Alike s t) (pending.read position c).1 (pending'.read position' c).1 ∧
      Pending.Alike (quoteAfter quotes quote? c) (pending.read position c).2
        (pending'.read position' c).2 := by
  cases h with
  | nothing => exact Pending.Alike.nothing.readCode (hbehind rfl) (hnext rfl)
  | word start start' letters =>
      exact (Pending.Alike.word start start' letters).readCode (hbehind rfl) (hnext rfl)
  | @run quote hquote start start' content content' h =>
      unfold Pending.read
      by_cases hc : (c == quote) = true
      · dsimp only
        rw [if_pos hc, if_pos hc, beq_iff_eq.mp hc, quoteAfter_self]
        exact ⟨.nil, .halted hquote start start' h⟩
      · dsimp only
        rw [if_neg hc, if_neg hc, quoteAfter_of_ne (by simpa using hc)]
        exact ⟨.nil, .run hquote start start' fun hne => by rw [h hne]⟩
  | @halted quote hquote start start' content content' h =>
      unfold Pending.read
      by_cases hc : (c == quote) = true
      · dsimp only
        rw [if_pos hc, if_pos hc, beq_iff_eq.mp hc, quoteAfter_of_isQuote hquote]
        exact ⟨.nil, .run hquote start start' fun hne => by rw [h hne]⟩
      · dsimp only
        rw [if_neg hc, if_neg hc]
        exact (Pending.Alike.halted hquote start start' h).readCode (hbehind rfl) (hnext rfl)

end Tokens

theorem tokensFrom_cons (position : Nat) (pending : Pending) (c : Char) (rest : List Char) :
    tokensFrom position pending (c :: rest) = (pending.read position c).1
      ++ tokensFrom (position + 1) (pending.read position c).2 rest := rfl

/-- Behind a run a literal's content and the quote that ends it are passed over. -/
theorem tokensFrom_content (position start : Nat) (content s rest : List Char) :
    tokensFrom (position + 1) (.run '\'' start content) (Naming.doubled '\'' s ++ '\'' :: rest)
      = tokensFrom (position + (Naming.enclosed '\'' s).length)
          (.halted '\'' start (s.reverse ++ content)) rest := by
  have hlength : position + 1 + (Naming.doubled '\'' s).length + 1
      = position + (Naming.enclosed '\'' s).length := by
    rw [length_enclosed]
    omega
  rw [tokensFrom_doubled, tokensFrom_cons, hlength]
  rfl

theorem Alike.tokensFrom {quote? : Option Char} {s t : List Char} (h : Alike quote? s t)
    {pending pending' : Pending} (hpending : Pending.Alike quote? pending pending')
    {whole whole' : List Char} {position position' : Nat} (hs : whole.drop position = s)
    (ht : whole'.drop position' = t) :
    List.Forall₂ (Token.Alike whole whole') (tokensFrom position pending s)
      (tokensFrom position' pending' t) := by
  induction h generalizing pending pending' position position' with
  | nil =>
      apply hpending.tokens
      rw [hs, ht]
      exact .nil
  | @cons quote? c s t h ih =>
      have hs' : whole.drop (position + 1) = s := by
        rw [← List.tail_drop, hs, List.tail_cons]
      have ht' : whole'.drop (position' + 1) = t := by
        rw [← List.tail_drop, ht, List.tail_cons]
      have hbehind : quote? = none → Alike none (whole.drop position) (whole'.drop position') := by
        rintro rfl
        rw [hs, ht]
        exact .cons c h
      have hnext : quote? = none → isQuote c = false →
          Alike none (whole.drop (position + 1)) (whole'.drop (position' + 1)) := by
        rintro rfl hcode
        rw [quoteAfter_of_not_isQuote hcode] at h
        rw [hs', ht']
        exact h
      obtain ⟨htokens, hpending'⟩ := hpending.read hbehind hnext
      rw [tokensFrom_cons, tokensFrom_cons]
      exact List.rel_append htokens (ih hpending' hs' ht')
  | @literal v w s t h ih =>
      have hbehind : Alike none (whole.drop position) (whole'.drop position') := by
        rw [hs, ht]
        exact .literal v w h
      have hnext : isQuote '\'' = false → Alike none (whole.drop (position + 1))
          (whole'.drop (position' + 1)) := fun hcode => nomatch hcode
      obtain ⟨htokens, hopened⟩ := hpending.read (fun _ => hbehind) (fun _ => hnext)
      have hsplit : ∀ content text : List Char, Naming.enclosed '\'' content ++ text
          = '\'' :: (Naming.doubled '\'' content ++ '\'' :: text) := by
        intro content text
        rw [Naming.enclosed, List.cons_append, List.cons_append, List.append_assoc]
        rfl
      have hdrop : ∀ {text : List Char} {start : Nat} {content rest : List Char},
          text.drop start = Naming.enclosed '\'' content ++ rest →
            text.drop (start + (Naming.enclosed '\'' content).length) = rest := by
        intro text start content rest htext
        rw [← List.drop_drop, htext, List.drop_left]
      rw [hsplit, hsplit, tokensFrom_cons, tokensFrom_cons]
      refine List.rel_append htokens ?_
      generalize (pending.read position '\'').2 = opened at hopened
      generalize (pending'.read position' '\'').2 = opened' at hopened
      cases hopened with
      | run hquote start start' hcontent =>
          rw [tokensFrom_content, tokensFrom_content]
          exact ih (.halted hquote start start' fun hne => absurd rfl hne) (hdrop hs) (hdrop ht)

theorem Alike.tokenize {s t : List Char} (h : Alike none s t) :
    List.Forall₂ (Token.Alike s t) (tokenize s) (tokenize t) :=
  h.tokensFrom .nothing rfl rfl

end RelSchema.Sql
