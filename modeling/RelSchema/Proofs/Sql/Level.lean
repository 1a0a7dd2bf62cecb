import Mathlib.Tactic.Common
import RelSchema.Sql.Bracket
import RelSchema.Sql.Split

/-!
# Quotes and parentheses around a place in a text

Every scan of a statement keeps an open quote and a number of open parentheses. `Level` is that
state, and `Level.after?` follows it through a text. Each scan of the library is related to it once:
the search for a closing parenthesis (`closeFrom`) stops where the level falls below its start, and
the division at separators (`segmentsFrom`) passes over all text above depth zero. The division
counts parentheses from zero upwards, so `Level.clampedAfter` passes over a stray closing one, which
has no level behind it otherwise.
-/

namespace RelSchema.Sql

theorem quoteAfter_of_isQuote {c : Char} (hc : isQuote c = true) :
    quoteAfter quotes none c = some c :=
  if_pos hc

theorem quoteAfter_of_not_isQuote {c : Char} (hc : isQuote c = false) :
    quoteAfter quotes none c = none :=
  if_neg (Bool.eq_false_iff.mp hc)

theorem quoteAfter_self (quote : Char) : quoteAfter quotes (some quote) quote = none :=
  if_pos (beq_self_eq_true quote)

theorem quoteAfter_of_ne {quote c : Char} (hc : c ≠ quote) :
    quoteAfter quotes (some quote) c = some quote :=
  if_neg (by simpa using hc)

/-- The quote that is open and the number of parentheses that are. -/
structure Level where
  quote? : Option Char := none
  depth : Nat := 0
  deriving DecidableEq, Repr

namespace Level

/-- The level behind a character; a stray closing parenthesis has none. -/
def next? (level : Level) (c : Char) : Option Level :=
  if level.quote?.isSome || (quoteAfter quotes level.quote? c).isSome then
    some { level with quote? := quoteAfter quotes level.quote? c }
  else if c == '(' then some { level with depth := level.depth + 1 }
  else if c == ')' then
    match level.depth with
    | 0 => none
    | depth + 1 => some { level with depth }
  else some level

def after? (level : Level) (text : List Char) : Option Level :=
  text.foldlM next? level

@[simp]
theorem after?_nil (level : Level) : level.after? [] = some level := rfl

theorem after?_cons (level : Level) (c : Char) (text : List Char) :
    level.after? (c :: text) = (level.next? c).bind (·.after? text) := rfl

theorem after?_append (level : Level) (a b : List Char) :
    level.after? (a ++ b) = (level.after? a).bind (·.after? b) :=
  List.foldlM_append

theorem after?_append_of_eq {level mid : Level} {a : List Char} (ha : level.after? a = some mid)
    (b : List Char) : level.after? (a ++ b) = mid.after? b := by
  rw [after?_append, ha, Option.bind_some]

theorem after?_cons_eq_some_iff {level last : Level} {c : Char} {text : List Char} :
    level.after? (c :: text) = some last ↔
      ∃ mid, level.next? c = some mid ∧ mid.after? text = some last := by
  rw [after?_cons, Option.bind_eq_some_iff]

theorem after?_append_eq_some_iff {level last : Level} {a b : List Char} :
    level.after? (a ++ b) = some last ↔
      ∃ mid, level.after? a = some mid ∧ mid.after? b = some last := by
  rw [after?_append, Option.bind_eq_some_iff]

/-- Only a stray closing parenthesis has no level behind it. -/
theorem next?_eq_none_iff {level : Level} {c : Char} :
    level.next? c = none ↔ level = {} ∧ c = ')' := by
  obtain ⟨quote?, depth⟩ := level
  constructor
  · intro h
    simp only [next?] at h
    split_ifs at h with hquote hopen hclose
    cases depth with
    | zero =>
        simp only [Bool.or_eq_true, not_or, Option.not_isSome_iff_eq_none] at hquote
        exact ⟨by rw [hquote.1], by simpa using hclose⟩
    | succ depth => cases h
  · rintro ⟨hlevel, rfl⟩
    rw [hlevel]
    rfl

/-- A step turns the quote as a toggle, and only characters of code change the depth. -/
theorem eq_of_next? {level next : Level} {c : Char} (h : level.next? c = some next) :
    next.quote? = quoteAfter quotes level.quote? c ∧
      next.depth = if level.quote? == none then depthAfter level.depth c else level.depth := by
  obtain ⟨quote?, depth⟩ := level
  simp only [next?] at h
  split_ifs at h with hquote hopen hclose
  · cases h
    refine ⟨rfl, ?_⟩
    cases quote? with
    | some quote => rfl
    | none =>
        have hmem : c = '\'' ∨ c = '"' ∨ c = '\x60' := by
          by_contra hne
          simp_all [quoteAfter, quotes]
        rcases hmem with rfl | rfl | rfl <;> rfl
  all_goals
    obtain ⟨rfl, hnone⟩ : quote? = none ∧ quoteAfter quotes quote? c = none := by
      simpa using hquote
  · cases h
    refine ⟨hnone.symm, ?_⟩
    simp [depthAfter, hopen]
  · cases depth with
    | zero => cases h
    | succ depth =>
        cases h
        refine ⟨hnone.symm, ?_⟩
        simp [depthAfter, hopen, hclose]
  · cases h
    refine ⟨hnone.symm, ?_⟩
    simp [depthAfter, hopen, hclose]

/-- The level behind a character, where a stray closing parenthesis changes nothing. -/
def clampedNext (level : Level) (c : Char) : Level where
  quote? := quoteAfter quotes level.quote? c
  depth := if level.quote? == none then depthAfter level.depth c else level.depth

def clampedAfter (level : Level) (text : List Char) : Level :=
  text.foldl clampedNext level

theorem clampedAfter_cons (level : Level) (c : Char) (text : List Char) :
    level.clampedAfter (c :: text) = (level.clampedNext c).clampedAfter text := rfl

theorem clampedAfter_append (level : Level) (a b : List Char) :
    level.clampedAfter (a ++ b) = (level.clampedAfter a).clampedAfter b :=
  List.foldl_append

theorem clampedNext_of_next? {level next : Level} {c : Char} (h : level.next? c = some next) :
    level.clampedNext c = next := by
  obtain ⟨hquote, hdepth⟩ := eq_of_next? h
  rw [clampedNext, ← hquote, ← hdepth]

theorem clampedAfter_of_after? {level last : Level} {text : List Char}
    (h : level.after? text = some last) : level.clampedAfter text = last := by
  induction text generalizing level with
  | nil =>
      cases h
      rfl
  | cons c text ih =>
      obtain ⟨mid, hnext, hrest⟩ := after?_cons_eq_some_iff.mp h
      rw [clampedAfter_cons, clampedNext_of_next? hnext]
      exact ih hrest

/-- A text can be read with more parentheses open around it. -/
theorem after?_raised {level last : Level} {text : List Char} (h : level.after? text = some last)
    (extra : Nat) :
    after? ⟨level.quote?, level.depth + extra⟩ text = some ⟨last.quote?, last.depth + extra⟩ := by
  induction text generalizing level with
  | nil =>
      cases h
      rfl
  | cons c text ih =>
      obtain ⟨mid, hnext, hrest⟩ := after?_cons_eq_some_iff.mp h
      refine after?_cons_eq_some_iff.mpr ⟨⟨mid.quote?, mid.depth + extra⟩, ?_, ih hrest⟩
      obtain ⟨quote?, depth⟩ := level
      obtain ⟨midQuote?, midDepth⟩ := mid
      simp only [next?] at hnext ⊢
      split_ifs at hnext ⊢
      · simp_all
      · simp only [Option.some.injEq, mk.injEq] at hnext ⊢
        exact ⟨hnext.1, by omega⟩
      · cases depth with
        | zero => simp at hnext
        | succ depth =>
            have hsucc : depth + 1 + extra = depth + extra + 1 := by omega
            rw [hsucc]
            simp only [Option.some.injEq, mk.injEq] at hnext ⊢
            exact ⟨hnext.1, by omega⟩
      · simp only [Option.some.injEq, mk.injEq] at hnext ⊢
        exact ⟨hnext.1, by omega⟩

end Level

/-- A text that leaves neither quotes nor parentheses open and closes none that it did not open. -/
def Balanced (text : List Char) : Prop :=
  Level.after? {} text = some {}

instance (text : List Char) : Decidable (Balanced text) :=
  inferInstanceAs (Decidable (_ = _))

namespace Balanced

theorem nil : Balanced [] := rfl

theorem append {a b : List Char} (ha : Balanced a) (hb : Balanced b) : Balanced (a ++ b) := by
  rw [Balanced, Level.after?_append_of_eq ha]
  exact hb

theorem of_append {a b : List Char} (hab : Balanced (a ++ b)) (ha : Balanced a) : Balanced b := by
  rwa [Balanced, Level.after?_append_of_eq ha] at hab

theorem after?_code {text : List Char} (h : Balanced text) (depth : Nat) :
    Level.after? ⟨none, depth⟩ text = some ⟨none, depth⟩ := by
  simpa using Level.after?_raised h depth

theorem clampedAfter_eq {text : List Char} (h : Balanced text) : Level.clampedAfter {} text = {} :=
  Level.clampedAfter_of_after? h

theorem parenthesized {text : List Char} (h : Balanced text) : Balanced ('(' :: text ++ [')']) := by
  have hopen : Level.next? {} '(' = some ⟨none, 1⟩ := rfl
  rw [Balanced, List.cons_append, Level.after?_cons, hopen, Option.bind_some,
    Level.after?_append_of_eq (h.after?_code 1)]
  rfl

end Balanced

namespace Brackets

/-- The search goes on as long as there is a level. -/
theorem closeFrom_cons (level : Level) (position : Nat) (c : Char) (text : List Char) :
    closeFrom {} level.quote? level.depth position (c :: text)
      = match level.next? c with
        | some next => closeFrom {} next.quote? next.depth (position + 1) text
        | none => some position := by
  obtain ⟨quote?, depth⟩ := level
  simp only [closeFrom, Level.next?]
  split_ifs with hquote hopen hclose
  · rfl
  · simp_all
  · cases depth <;> simp_all
  · simp_all

/-- The search passes over a text that leaves the level defined. -/
theorem closeFrom_append {level last : Level} {a : List Char}
    (ha : level.after? a = some last) (position : Nat) (b : List Char) :
    closeFrom {} level.quote? level.depth position (a ++ b)
      = closeFrom {} last.quote? last.depth (position + a.length) b := by
  induction a generalizing level position with
  | nil =>
      cases ha
      rfl
  | cons c a ih =>
      obtain ⟨mid, hnext, hrest⟩ := Level.after?_cons_eq_some_iff.mp ha
      rw [List.cons_append, closeFrom_cons, hnext, List.length_cons, Nat.add_comm a.length 1,
        ← Nat.add_assoc]
      exact ih hrest (position + 1)

/-- The search fails only on a text that nowhere closes the parenthesis. -/
theorem after?_of_closeFrom_eq_none {level : Level} {position : Nat} {text : List Char}
    (h : closeFrom {} level.quote? level.depth position text = none) :
    ∃ last, level.after? text = some last := by
  induction text generalizing level position with
  | nil => exact ⟨level, rfl⟩
  | cons c text ih =>
      rw [closeFrom_cons] at h
      cases hnext : level.next? c with
      | none =>
          rw [hnext] at h
          cases h
      | some next =>
          rw [hnext] at h
          obtain ⟨last, hlast⟩ := ih h
          exact ⟨last, Level.after?_cons_eq_some_iff.mpr ⟨next, hnext, hlast⟩⟩

/-- What the search finds closes a text that brings the level down to the start. -/
theorem exists_of_closeFrom {level : Level} {position close : Nat} {text : List Char}
    (h : closeFrom {} level.quote? level.depth position text = some close) :
    ∃ a b, text = a ++ ')' :: b ∧ level.after? a = some {} ∧ close = position + a.length := by
  induction text generalizing level position with
  | nil => cases h
  | cons c text ih =>
      rw [closeFrom_cons] at h
      cases hnext : level.next? c with
      | none =>
          rw [hnext] at h
          obtain ⟨hlevel, hc⟩ := Level.next?_eq_none_iff.mp hnext
          cases h
          exact ⟨[], text, by rw [hc]; rfl, by rw [hlevel]; rfl, rfl⟩
      | some next =>
          rw [hnext] at h
          obtain ⟨a, b, rfl, ha, hclose⟩ := ih h
          refine ⟨c :: a, b, rfl, Level.after?_cons_eq_some_iff.mpr ⟨next, hnext, ha⟩, ?_⟩
          rw [List.length_cons]
          omega

theorem exists_after?_of_closeFrom {position : Nat} {text : List Char}
    (h : closeFrom {} none 0 position text = none) : ∃ last, Level.after? {} text = some last :=
  @after?_of_closeFrom_eq_none {} position text h

theorem exists_balanced_of_closeFrom {position close : Nat} {text : List Char}
    (h : closeFrom {} none 0 position text = some close) :
    ∃ a b, text = a ++ ')' :: b ∧ Balanced a ∧ close = position + a.length :=
  @exists_of_closeFrom {} position close text h

theorem closeFrom_closing {a : List Char} (ha : Balanced a) (position : Nat) (b : List Char) :
    closeFrom {} none 0 position (a ++ ')' :: b) = some (position + a.length) := by
  rw [@closeFrom_append {} {} a ha]
  rfl

end Brackets

end RelSchema.Sql
