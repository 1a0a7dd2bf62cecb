import RelSchema.Proofs.Sql.Contained

/-!
# The characters of a text outside quotes

The search for a pair of parentheses looks at the characters outside quotes only. It passes over any
text without an opening parenthesis among them, and stops at the first one.
-/

namespace RelSchema.Sql

open Text (openQuote)

/-- The characters outside quoted runs of a text, in front of which the quote is open if there is
one. -/
def codeOf (quote? : Option Char) : List Char → List Char
  | [] => []
  | c :: rest =>
    if quote?.isSome || isQuote c then codeOf (quoteAfter quotes quote? c) rest
    else c :: codeOf none rest

theorem codeOf_cons_of_quoted {quote? : Option Char} {c : Char}
    (hc : (quote?.isSome || isQuote c) = true) (rest : List Char) :
    codeOf quote? (c :: rest) = codeOf (quoteAfter quotes quote? c) rest :=
  if_pos hc

theorem codeOf_cons_of_code {c : Char} (hc : isQuote c = false) (rest : List Char) :
    codeOf none (c :: rest) = c :: codeOf none rest :=
  if_neg (by simpa using hc)

theorem codeOf_append (quote? : Option Char) (a b : List Char) :
    codeOf quote? (a ++ b) = codeOf quote? a ++ codeOf (openQuote quotes quote? a) b := by
  induction a generalizing quote? with
  | nil => rfl
  | cons c a ih =>
      rw [List.cons_append, Text.openQuote_cons]
      by_cases hc : (quote?.isSome || isQuote c) = true
      · rw [codeOf_cons_of_quoted hc, codeOf_cons_of_quoted hc, ih]
      · obtain ⟨rfl, hcode⟩ : quote? = none ∧ isQuote c = false := by simpa using hc
        rw [codeOf_cons_of_code hcode, codeOf_cons_of_code hcode, ih,
          quoteAfter_of_not_isQuote hcode]
        rfl

/-- The first place of a character outside quotes. -/
theorem exists_of_mem_codeOf {quote? : Option Char} {c : Char} {text : List Char}
    (h : c ∈ codeOf quote? text) :
    ∃ front back, text = front ++ c :: back ∧ openQuote quotes quote? front = none ∧
      c ∉ codeOf quote? front := by
  induction text generalizing quote? with
  | nil => cases h
  | cons d text ih =>
      by_cases hd : (quote?.isSome || isQuote d) = true
      · rw [codeOf_cons_of_quoted hd] at h
        obtain ⟨front, back, rfl, hquote, hfirst⟩ := ih h
        exact ⟨d :: front, back, rfl, hquote, by rwa [codeOf_cons_of_quoted hd]⟩
      · obtain ⟨rfl, hcode⟩ : quote? = none ∧ isQuote d = false := by simpa using hd
        by_cases hne : c = d
        · exact ⟨[], text, by rw [hne]; rfl, rfl, List.not_mem_nil⟩
        · rw [codeOf_cons_of_code hcode] at h
          obtain ⟨front, back, rfl, hquote, hfirst⟩ := ih (List.mem_of_ne_of_mem hne h)
          refine ⟨d :: front, back, rfl, ?_, ?_⟩
          · rwa [Text.openQuote_cons, quoteAfter_of_not_isQuote hcode]
          · rw [codeOf_cons_of_code hcode]
            exact List.not_mem_cons_of_ne_of_not_mem hne hfirst

/-- A character other than a quote stands outside quotes where no quote is open in front of it. -/
theorem mem_codeOf_iff {c : Char} (hc : isQuote c = false) {quote? : Option Char}
    {text : List Char} : c ∈ codeOf quote? text ↔
      ∃ front back, text = front ++ c :: back ∧ openQuote quotes quote? front = none := by
  constructor
  · intro hmem
    obtain ⟨front, back, htext, hquote, -⟩ := exists_of_mem_codeOf hmem
    exact ⟨front, back, htext, hquote⟩
  · rintro ⟨front, back, rfl, hfront⟩
    rw [codeOf_append, hfront, codeOf_cons_of_code hc]
    exact List.mem_append_right _ List.mem_cons_self

/-- The depth changes by the parentheses outside quotes. -/
theorem Level.count_codeOf {level last : Level} {text : List Char}
    (h : level.after? text = some last) :
    level.depth + (codeOf level.quote? text).count '('
      = last.depth + (codeOf level.quote? text).count ')' := by
  have hquoted : ∀ (quote? : Option Char) c,
      (quote?.isSome || (quoteAfter quotes quote? c).isSome) = (quote?.isSome || isQuote c) := by
    intro quote? c
    cases quote? with
    | some quote => rfl
    | none => by_cases hc : isQuote c = true <;> simp_all [quoteAfter, isQuote]
  induction text generalizing level with
  | nil =>
      cases h
      rfl
  | cons c text ih =>
      obtain ⟨mid, hnext, hrest⟩ := after?_cons_eq_some_iff.mp h
      have hcount := ih hrest
      obtain ⟨quote?, depth⟩ := level
      simp only [next?, hquoted] at hnext
      by_cases hc : (quote?.isSome || isQuote c) = true
      · rw [if_pos hc] at hnext
        cases hnext
        rwa [codeOf_cons_of_quoted hc]
      · rw [if_neg hc] at hnext
        obtain ⟨rfl, hcode⟩ : quote? = none ∧ isQuote c = false := by simpa using hc
        rw [codeOf_cons_of_code hcode, List.count_cons, List.count_cons]
        split_ifs at hnext with hopen hclose
        · cases hnext
          obtain rfl : c = '(' := by simpa using hopen
          simp only [beq_self_eq_true, if_true, Char.reduceBEq, Bool.false_eq_true, if_false]
          simp only at hcount
          omega
        · obtain rfl : c = ')' := by simpa using hclose
          cases depth with
          | zero => cases hnext
          | succ depth =>
              cases hnext
              simp only [beq_self_eq_true, if_true, Char.reduceBEq, Bool.false_eq_true, if_false]
              simp only at hcount
              omega
        · cases hnext
          rw [if_neg hopen, if_neg hclose]
          exact hcount

section Quoted

variable {quote : Char} (hquote : isQuote quote = true) (s : List Char)

include hquote

theorem codeOf_doubled : codeOf (some quote) (Naming.doubled quote s) = [] := by
  induction s with
  | nil => rfl
  | cons c s ih =>
      by_cases hc : c = quote
      · subst hc
        rw [doubled_cons_self, codeOf_cons_of_quoted rfl, quoteAfter_self,
          codeOf_cons_of_quoted (by simpa using hquote), quoteAfter_of_isQuote hquote, ih]
      · rw [doubled_cons_of_ne hc, codeOf_cons_of_quoted rfl, quoteAfter_of_ne hc, ih]

theorem codeOf_enclosed : codeOf none (Naming.enclosed quote s) = [] := by
  rw [Naming.enclosed, List.cons_append, codeOf_cons_of_quoted (by simpa using hquote),
    quoteAfter_of_isQuote hquote, codeOf_append, codeOf_doubled hquote, List.nil_append,
    codeOf_cons_of_quoted (by simp [hquote])]
  rfl

theorem openQuote_enclosed : openQuote quotes none (Naming.enclosed quote s) = none :=
  Level.quote?_of_after? (Level.after?_enclosed hquote 0 s)

end Quoted

namespace Brackets

theorem findFrom_cons_of_not_opening {quote? : Option Char} {c : Char}
    (h : ¬(quote? = none ∧ c = '(')) (position : Nat) (text : List Char) :
    findFrom {} quote? position (c :: text)
      = findFrom {} (quoteAfter Sql.quotes quote? c) (position + 1) text := by
  rw [findFrom]
  dsimp only
  split_ifs with hquote hopening
  · rfl
  · exfalso
    simp only [Bool.or_eq_true, not_or, Bool.not_eq_true, Option.isSome_eq_false_iff,
      Option.isNone_iff_eq_none] at hquote
    exact h ⟨hquote.1, beq_iff_eq.mp hopening⟩
  · simp only [Bool.or_eq_true, not_or, Bool.not_eq_true, Option.isSome_eq_false_iff,
      Option.isNone_iff_eq_none] at hquote
    rw [hquote.2]

/-- The search passes over a text without an opening parenthesis outside quotes. -/
theorem findFrom_append {quote? : Option Char} {a : List Char} (ha : '(' ∉ codeOf quote? a)
    (position : Nat) (b : List Char) :
    findFrom {} quote? position (a ++ b)
      = findFrom {} (openQuote Sql.quotes quote? a) (position + a.length) b := by
  induction a generalizing quote? position with
  | nil => rfl
  | cons c a ih =>
      have hopening : ¬(quote? = none ∧ c = '(') := by
        rintro ⟨rfl, rfl⟩
        exact ha List.mem_cons_self
      have hrest : '(' ∉ codeOf (quoteAfter Sql.quotes quote? c) a := by
        intro hmem
        obtain ⟨front, back, rfl, hfront⟩ := (mem_codeOf_iff (by decide)).mp hmem
        exact ha ((mem_codeOf_iff (by decide)).mpr ⟨c :: front, back, rfl, hfront⟩)
      rw [List.cons_append, findFrom_cons_of_not_opening hopening, ih hrest, List.length_cons,
        Text.openQuote_cons, Nat.add_assoc, Nat.add_comm 1]

theorem findFrom_enclosed {quote : Char} (hquote : isQuote quote = true) (s : List Char)
    (position : Nat) (rest : List Char) :
    findFrom {} none position (Naming.enclosed quote s ++ rest)
      = findFrom {} none (position + (Naming.enclosed quote s).length) rest := by
  rw [findFrom_append (by rw [codeOf_enclosed hquote]; exact List.not_mem_nil),
    openQuote_enclosed hquote]

/-- The search goes on to the first opening parenthesis outside quotes, and from there to the one
that closes it. -/
theorem findFrom_cases (quote? : Option Char) (position : Nat) (text : List Char) :
    (findFrom {} quote? position text = none ∧ '(' ∉ codeOf quote? text) ∨
    ∃ before rest, text = before ++ '(' :: rest ∧ openQuote Sql.quotes quote? before = none ∧
      '(' ∉ codeOf quote? before ∧ findFrom {} quote? position text
        = (closeFrom {} none 0 (position + before.length + 1) rest).map
          fun close => (position + before.length, close) := by
  by_cases hmem : '(' ∈ codeOf quote? text
  · obtain ⟨before, rest, rfl, hquote, hfirst⟩ := exists_of_mem_codeOf hmem
    refine Or.inr ⟨before, rest, rfl, hquote, hfirst, ?_⟩
    rw [findFrom_append hfirst, hquote]
    rfl
  · have hfind := findFrom_append hmem position []
    rw [List.append_nil] at hfind
    exact Or.inl ⟨hfind, hmem⟩

end Brackets

end RelSchema.Sql
