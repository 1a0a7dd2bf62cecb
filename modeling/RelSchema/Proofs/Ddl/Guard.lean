import Mathlib.Data.List.Basic
import RelSchema.Ddl.Guard
import RelSchema.Proofs.Sql.Token
import RelSchema.Proofs.Text.Class
import RelSchema.Proofs.Text.Cut

/-!
# Guards of statements

`IF NOT EXISTS` is put behind every `CREATE TABLE` that lacks it, wherever the words stand. A
character that is neither in a word nor blank parts a text into two that are treated on their own,
so that what stands between quotes is treated as if it stood alone.
-/

namespace RelSchema.Ddl

/-- The text with the clause wherever it is missing. -/
def guarded (s : List Char) : List Char :=
  guardFrom [] s

theorem toList_ifNotExists (script : String) :
    (ifNotExists script).toList = guarded script.toList :=
  String.toList_ofList

theorem ifNotExists_eq_iff {s : String} : ifNotExists s = s ↔ guarded s.toList = s.toList := by
  rw [← toList_ifNotExists, String.toList_inj]

/-- Whether the words `CREATE TABLE` stand in the text without the clause behind them. -/
def HasHead (s : List Char) : Prop :=
  ∃ before after, s = before ++ ("CREATE TABLE".toList ++ after) ∧
    (∀ c ∈ before.getLast?, Text.isWordChar c = false) ∧
    (∀ c ∈ after.head?, Text.isWordChar c = false) ∧ startsWithGuard after = false

/-- The words of a head, read from their end. -/
def reversedHead : List Char := "CREATE TABLE".toList.reverse

theorem head?_any_eq_false_iff {α : Type} {p : α → Bool} {s : List α} :
    s.head?.any p = false ↔ ∀ a ∈ s.head?, p a = false := by
  cases s.head? <;> simp

theorem endsWithHead_iff {before : List Char} :
    endsWithHead before = true ↔ ∃ earlier, before = reversedHead ++ earlier ∧
      ∀ c ∈ earlier.head?, Text.isWordChar c = false := by
  unfold endsWithHead
  constructor
  · intro h
    cases hdrop : Text.dropPrefix? "CREATE TABLE".toList.reverse before with
    | none =>
        rw [hdrop] at h
        cases h
    | some earlier =>
        rw [hdrop] at h
        refine ⟨earlier, Text.eq_append_of_dropPrefix? hdrop, head?_any_eq_false_iff.mp ?_⟩
        simpa using h
  · rintro ⟨earlier, rfl, hearlier⟩
    rw [reversedHead, Text.dropPrefix?_append]
    simpa using head?_any_eq_false_iff.mpr hearlier

theorem lacksGuard_iff {before after : List Char} :
    lacksGuard before after = true ↔ endsWithHead before = true ∧
      (∀ c ∈ after.head?, Text.isWordChar c = false) ∧ startsWithGuard after = false := by
  rw [lacksGuard, Bool.and_eq_true, Bool.and_eq_true, Bool.not_eq_true', Bool.not_eq_true',
    head?_any_eq_false_iff, and_assoc]

theorem lacksGuard_of_not_mem {before : List Char} (h : ' ' ∉ before) (after : List Char) :
    lacksGuard before after = false := by
  by_contra hlacks
  obtain ⟨hends, -, -⟩ := lacksGuard_iff.mp (Bool.not_eq_false _ ▸ hlacks)
  obtain ⟨earlier, rfl, -⟩ := endsWithHead_iff.mp hends
  exact h (List.mem_append_left _ (by decide))

theorem guardFrom_of_lacksGuard_eq_false {before : List Char} {c : Char} {s : List Char}
    (h : lacksGuard before (c :: s) = false) :
    guardFrom before (c :: s) = c :: guardFrom (c :: before) s := by
  rw [guardFrom, h, if_neg Bool.false_ne_true, List.nil_append]

theorem sublist_guardFrom (before s : List Char) : s.Sublist (guardFrom before s) := by
  induction s generalizing before with
  | nil => exact List.nil_sublist _
  | cons c s ih =>
      rw [guardFrom]
      exact List.sublist_append_of_sublist_right ((ih (c :: before)).cons_cons c)

/-- A text stays as it is exactly if the clause is missing nowhere in it. -/
theorem guardFrom_eq_self_iff {before s : List Char} :
    guardFrom before s = s ↔
      ∀ a b, s = a ++ b → lacksGuard (a.reverse ++ before) b = false := by
  induction s generalizing before with
  | nil =>
      have hguard : guardFrom before [] = [] ↔ lacksGuard before [] = false := by
        rw [guardFrom]
        cases lacksGuard before [] <;> decide
      rw [hguard]
      constructor
      · intro h a b hsplit
        obtain ⟨rfl, rfl⟩ := List.append_eq_nil_iff.mp hsplit.symm
        exact h
      · exact fun h => h [] [] rfl
  | cons c s ih =>
      constructor
      · intro h a b hsplit
        cases hlacks : lacksGuard before (c :: s) with
        | true =>
            have hlength := congrArg List.length h
            have hrest := (sublist_guardFrom (c :: before) s).length_le
            have hclause : " IF NOT EXISTS".toList.length = 14 := by decide
            rw [guardFrom, hlacks, if_pos rfl, List.length_append, List.length_cons,
              List.length_cons, hclause] at hlength
            omega
        | false =>
            rw [guardFrom_of_lacksGuard_eq_false hlacks, List.cons.injEq] at h
            cases a with
            | nil =>
                obtain rfl : c :: s = b := hsplit
                exact hlacks
            | cons d a =>
                obtain ⟨rfl, hrest⟩ := List.cons.inj hsplit
                rw [List.reverse_cons, List.append_assoc]
                exact ih.mp h.2 a b hrest
      · intro h
        have hfirst : lacksGuard before (c :: s) = false := h [] (c :: s) rfl
        rw [guardFrom_of_lacksGuard_eq_false hfirst, ih.mpr]
        intro a b hsplit
        have hlacks := h (c :: a) b (by rw [hsplit]; rfl)
        rwa [List.reverse_cons, List.append_assoc] at hlacks

/-- Only a text with a head is changed. -/
theorem guarded_eq_self_iff {s : List Char} : guarded s = s ↔ ¬ HasHead s := by
  rw [guarded, guardFrom_eq_self_iff]
  constructor
  · rintro h ⟨before, after, hsplit, hbefore, hafter, hguard⟩
    have hends : endsWithHead ((before ++ "CREATE TABLE".toList).reverse ++ []) = true := by
      refine endsWithHead_iff.mpr ⟨before.reverse, ?_, ?_⟩
      · rw [List.append_nil, List.reverse_append]
        rfl
      · rwa [List.head?_reverse]
    have hlacks := h (before ++ "CREATE TABLE".toList) after (by rw [hsplit, List.append_assoc])
    rw [lacksGuard_iff.mpr ⟨hends, hafter, hguard⟩] at hlacks
    cases hlacks
  · intro h a b hsplit
    by_contra hlacks
    obtain ⟨hends, hafter, hguard⟩ := lacksGuard_iff.mp (Bool.not_eq_false _ ▸ hlacks)
    obtain ⟨earlier, ha, hearlier⟩ := endsWithHead_iff.mp hends
    refine h ⟨earlier.reverse, b, ?_, by rwa [List.getLast?_reverse], hafter, hguard⟩
    have hfront : a = earlier.reverse ++ "CREATE TABLE".toList := by
      rw [← List.reverse_inj, ← List.append_nil a.reverse, ha, List.reverse_append,
        List.reverse_reverse]
      rfl
    rw [hsplit, hfront, List.append_assoc]

/-- Whether a character stands neither in a word nor in a gap. -/
def IsBarrier (c : Char) : Prop :=
  Text.isWordChar c = false ∧ Text.isBlank c = false

instance (c : Char) : Decidable (IsBarrier c) :=
  inferInstanceAs (Decidable (_ ∧ _))

theorem isBarrier_of_isQuote {c : Char} (hc : Sql.isQuote c = true) : IsBarrier c := by
  have hall : ∀ c ∈ Sql.quotes, IsBarrier c := by decide
  exact hall c (by simpa [Sql.isQuote] using hc)

theorem dropBlankWord?_append {word : String} {x : Char} (hx : Text.isBlank x = false)
    (hword : x ∉ word.toList) (s rest : List Char) :
    dropBlankWord? word (s ++ x :: rest) = (dropBlankWord? word s).map (· ++ x :: rest) := by
  cases s with
  | nil => exact if_neg (Bool.eq_false_iff.mp hx)
  | cons c s =>
      have htrim : Text.trimLeft (s ++ x :: rest) = Text.trimLeft s ++ x :: rest := by
        rw [Text.trimLeft, Text.trimLeft, List.dropWhile_append,
          List.dropWhile_cons_of_neg (by rw [hx]; exact Bool.false_ne_true)]
        split_ifs with hnil
        · rw [List.isEmpty_iff.mp hnil, List.nil_append]
        · rfl
      rw [List.cons_append, dropBlankWord?, dropBlankWord?, htrim]
      split_ifs
      · refine Text.dropPrefix?_append_of_not_prefix fun back hback hprefix => ?_
        cases back with
        | nil => rfl
        | cons d back =>
            obtain ⟨rfl, -⟩ := List.cons_prefix_cons.mp hprefix
            exact absurd (by rw [hback]; simp) hword
      · rfl

/-- A character that is neither blank nor in one of the words ends the clause or its start. -/
theorem startsWithGuard_append {x : Char} (hblank : Text.isBlank x = false)
    (hwords : ∀ word ∈ ["IF", "NOT", "EXISTS"], x ∉ word.toList) (s rest : List Char) :
    startsWithGuard (s ++ x :: rest) = startsWithGuard s := by
  have hdrop (word : String) (hword : word ∈ ["IF", "NOT", "EXISTS"]) (s : List Char) :=
    dropBlankWord?_append hblank (hwords word hword) s rest
  rw [startsWithGuard, startsWithGuard, hdrop "IF" (by decide)]
  cases dropBlankWord? "IF" s with
  | none => rfl
  | some behind =>
      simp only [Option.map_some, Option.bind_eq_bind, Option.bind_some, hdrop "NOT" (by decide)]
      cases dropBlankWord? "NOT" behind with
      | none => rfl
      | some behind =>
          simp only [Option.map_some, Option.bind_some, hdrop "EXISTS" (by decide),
            Option.isSome_map]

theorem IsBarrier.not_mem_word {x : Char} (hx : IsBarrier x) :
    ∀ word ∈ ["IF", "NOT", "EXISTS"], x ∉ word.toList := by
  have hletters : ∀ word ∈ ["IF", "NOT", "EXISTS"], ∀ c ∈ word.toList,
      Text.isWordChar c = true := by decide
  intro word hword hmem
  have hletter := hletters word hword x hmem
  rw [hx.1] at hletter
  cases hletter

/-- Whether the clause is missing is told by the text up to the next barrier. -/
theorem lacksGuard_append {x : Char} (hx : IsBarrier x) (before s rest : List Char) :
    lacksGuard before (s ++ x :: rest) = lacksGuard before s := by
  rw [lacksGuard, lacksGuard, startsWithGuard_append hx.2 hx.not_mem_word]
  cases s with
  | nil => simp [hx.1]
  | cons c s => rfl

/-- What ends at a text is told by this text if a character in front of it is in no word, and the
text is not the second word of a head whose first one ends at this character. -/
theorem endsWithHead_append {x : Char} (hx : Text.isWordChar x = false) {before rest : List Char}
    (h : before = "TABLE".toList.reverse → ¬ ' ' :: "CREATE".toList.reverse <+: x :: rest) :
    endsWithHead (before ++ x :: rest) = endsWithHead before := by
  have hdrop : Text.dropPrefix? reversedHead (before ++ x :: rest)
      = (Text.dropPrefix? reversedHead before).map (· ++ x :: rest) := by
    refine Text.dropPrefix?_append_of_not_prefix fun back hback hprefix => ?_
    cases back with
    | nil => rfl
    | cons d back =>
        have hd : d = x := (List.cons_prefix_cons.mp hprefix).1
        have hspace : ∀ c ∈ reversedHead, Text.isWordChar c = false → c = ' ' := by decide
        obtain rfl : d = ' ' := hspace d (by rw [hback]; simp) (hd ▸ hx)
        have hhead : reversedHead = "TABLE".toList.reverse ++ ' ' :: "CREATE".toList.reverse := by
          decide
        obtain ⟨hbefore, -, hbehind⟩ :=
          (List.append_cons_inj_of_notMem (by decide) (by decide)).mp (hhead.symm.trans hback)
        rw [← hbehind] at hprefix
        exact absurd hprefix (h hbefore.symm)
  rw [reversedHead] at hdrop
  rw [endsWithHead, endsWithHead, hdrop]
  cases hfound : Text.dropPrefix? "CREATE TABLE".toList.reverse before with
  | none => rfl
  | some earlier =>
      cases earlier with
      | nil => simp [hx]
      | cons c earlier => rfl

/-- What stands in front of a text changes nothing in it if no head ends in the text because of
it. -/
theorem guardFrom_append {before rest s : List Char} (h : ∀ a b, s = a ++ b →
    endsWithHead (a.reverse ++ (before ++ rest)) = endsWithHead (a.reverse ++ before)) :
    guardFrom (before ++ rest) s = guardFrom before s := by
  have hlacks : lacksGuard (before ++ rest) s = lacksGuard before s := by
    have hends : endsWithHead (before ++ rest) = endsWithHead before := h [] s rfl
    rw [lacksGuard, lacksGuard, hends]
  -- with each character read, the text in front of the rest grows and the condition goes with it
  induction s generalizing before with
  | nil => rw [guardFrom, guardFrom, hlacks]
  | cons c s ih =>
      have hbehind : guardFrom (c :: before ++ rest) s = guardFrom (c :: before) s := by
        have hends : ∀ a b, s = a ++ b → endsWithHead (a.reverse ++ (c :: before ++ rest))
            = endsWithHead (a.reverse ++ (c :: before)) := by
          intro a b hsplit
          have hcons := h (c :: a) b (by rw [hsplit]; rfl)
          simpa using hcons
        refine ih hends ?_
        have hfirst : endsWithHead (c :: before ++ rest) = endsWithHead (c :: before) :=
          hends [] s rfl
        rw [lacksGuard, lacksGuard, hfirst]
      rw [guardFrom, guardFrom, hlacks]
      exact congrArg (_ ++ c :: ·) hbehind

/-- A text behind a character in no word is treated as if it stood alone, unless it starts with the
second word of a head whose first one ends at this character. -/
theorem guardFrom_cons {x : Char} (hx : Text.isWordChar x = false) {rest s : List Char}
    (h : "TABLE".toList <+: s → ¬ ' ' :: "CREATE".toList.reverse <+: x :: rest) :
    guardFrom (x :: rest) s = guarded s := by
  refine @guardFrom_append [] (x :: rest) s fun a b hsplit => ?_
  rw [List.nil_append, List.append_nil]
  refine endsWithHead_append hx fun ha => h ?_
  rw [List.reverse_inj.mp ha] at hsplit
  exact ⟨b, hsplit.symm⟩

theorem guardFrom_cons_of_ne {x : Char} (hx : Text.isWordChar x = false) (hne : x ≠ ' ')
    (rest s : List Char) : guardFrom (x :: rest) s = guarded s :=
  guardFrom_cons hx fun _ hprefix => hne (List.cons_prefix_cons.mp hprefix).1.symm

theorem guarded_cons {x : Char} (hx : Text.isWordChar x = false) (s : List Char) :
    guarded (x :: s) = x :: guarded s := by
  have hends : endsWithHead [] = false := by decide
  have hlacks : lacksGuard [] (x :: s) = false := by
    rw [lacksGuard, hends, Bool.false_and, Bool.false_and]
  have hshort : ¬ ' ' :: "CREATE".toList.reverse <+: [x] := fun hprefix =>
    absurd (show 7 ≤ 1 from hprefix.length_le) (by decide)
  rw [guarded, guardFrom_of_lacksGuard_eq_false hlacks, guardFrom_cons hx fun _ => hshort]

theorem guarded_gap {gap : List Char} (hgap : ∀ c ∈ gap, Text.isWordChar c = false)
    (s : List Char) : guarded (gap ++ s) = gap ++ guarded s := by
  induction gap with
  | nil => rfl
  | cons c gap ih =>
      rw [List.cons_append, guarded_cons (hgap c List.mem_cons_self),
        ih fun d hd => hgap d (List.mem_cons_of_mem c hd), List.cons_append]

theorem guardFrom_append_barrier {x : Char} (hx : IsBarrier x) (before a b : List Char) :
    guardFrom before (a ++ x :: b) = guardFrom before a ++ x :: guarded b := by
  have hspace : x ≠ ' ' := fun heq => absurd (heq ▸ hx.2) (by decide)
  induction a generalizing before with
  | nil =>
      rw [List.nil_append, guardFrom, guardFrom, guardFrom_cons_of_ne hx.1 hspace]
      exact congrArg (fun lacks => (if lacks = true then _ else _) ++ x :: guarded b)
        (lacksGuard_append hx before [] b)
  | cons c a ih =>
      have hlacks := lacksGuard_append hx before (c :: a) b
      rw [List.cons_append] at hlacks
      rw [List.cons_append, guardFrom, guardFrom, hlacks, ih, List.append_assoc, List.cons_append]

/-- At a barrier, the texts on both sides are treated on their own. -/
theorem guarded_append_barrier {x : Char} (hx : IsBarrier x) (a b : List Char) :
    guarded (a ++ x :: b) = guarded a ++ x :: guarded b :=
  guardFrom_append_barrier hx [] a b

/-- Where the clause is missing nowhere in the front of a text, this front is left. -/
theorem guardFrom_append_of_forall {before front rest : List Char} (h : ∀ a b, front = a ++ b →
    b ≠ [] → lacksGuard (a.reverse ++ before) (b ++ rest) = false) :
    guardFrom before (front ++ rest) = front ++ guardFrom (front.reverse ++ before) rest := by
  induction front generalizing before with
  | nil => rfl
  | cons c front ih =>
      have hlacks : lacksGuard before (c :: (front ++ rest)) = false :=
        h [] (c :: front) rfl (List.cons_ne_nil _ _)
      have hbehind : ∀ a b, front = a ++ b → b ≠ [] →
          lacksGuard (a.reverse ++ (c :: before)) (b ++ rest) = false := by
        rintro a b rfl hb
        have hcons := h (c :: a) b rfl hb
        rwa [List.reverse_cons, List.append_assoc] at hcons
      rw [List.cons_append, guardFrom_of_lacksGuard_eq_false hlacks, ih hbehind, List.reverse_cons,
        List.append_assoc, List.cons_append, List.singleton_append]

theorem guardFrom_word {before word : List Char} (hbefore : ' ' ∉ before) (hword : ' ' ∉ word)
    (rest : List Char) :
    guardFrom before (word ++ rest) = word ++ guardFrom (word.reverse ++ before) rest := by
  refine guardFrom_append_of_forall ?_
  rintro a b rfl -
  refine lacksGuard_of_not_mem (List.not_mem_append ?_ hbefore) _
  exact fun hmem => hword (List.mem_append_left b (List.mem_reverse.mp hmem))

theorem mem_guardFrom {before s : List Char} {c : Char} (hc : c ∈ guardFrom before s) :
    c ∈ " IF NOT EXISTS".toList ∨ c ∈ s := by
  induction s generalizing before with
  | nil =>
      rw [guardFrom] at hc
      split_ifs at hc
      · exact Or.inl hc
      · cases hc
  | cons d s ih =>
      rw [guardFrom] at hc
      rcases List.mem_append.mp hc with hc | hc
      · split_ifs at hc
        · exact Or.inl hc
        · cases hc
      · rcases List.mem_cons.mp hc with rfl | hc
        · exact Or.inr List.mem_cons_self
        · exact (ih hc).imp_right (List.mem_cons_of_mem d)

/-- Doubled quotes part a text as single ones do. -/
theorem guarded_doubled {quote : Char} (hquote : IsBarrier quote) (s : List Char) :
    guarded (Naming.doubled quote s) = Naming.doubled quote (guarded s) := by
  have hclause : quote ∉ " IF NOT EXISTS".toList := by
    have hall : ∀ c ∈ " IF NOT EXISTS".toList, ¬ IsBarrier c := by decide
    exact fun hmem => hall quote hmem hquote
  have hfree : ∀ front : List Char, quote ∉ front →
      Naming.doubled quote (guarded front) = guarded front := fun front hfront =>
    Sql.doubled_of_not_mem fun hmem => (mem_guardFrom hmem).elim hclause hfront
  -- what was read since the last quote stays in front, where it may belong to a head
  have hbehind : ∀ front : List Char, quote ∉ front →
      guarded (front ++ Naming.doubled quote s) = Naming.doubled quote (guarded (front ++ s)) := by
    induction s with
    | nil =>
        intro front hfront
        rw [Naming.doubled, List.flatMap_nil, List.append_nil, hfree front hfront]
    | cons c s ih =>
        intro front hfront
        by_cases hc : c = quote
        · have hrest := ih [] List.not_mem_nil
          rw [List.nil_append, List.nil_append] at hrest
          rw [hc, Sql.doubled_cons_self, guarded_append_barrier hquote, guarded_cons hquote.1,
            hrest, guarded_append_barrier hquote, Sql.doubled_append, Sql.doubled_cons_self,
            hfree front hfront]
        · have hfront' : quote ∉ front ++ [c] := by simp [hfront, Ne.symm hc]
          have hrest := ih (front ++ [c]) hfront'
          rw [List.append_assoc, List.append_assoc] at hrest
          rw [Sql.doubled_cons_of_ne hc]
          exact hrest
  exact hbehind [] List.not_mem_nil

theorem head?_guardFrom (before s : List Char) :
    (guardFrom before s).head? = s.head? ∨ (guardFrom before s).head? = some ' ' := by
  cases s with
  | nil =>
      rw [guardFrom]
      split_ifs
      · exact Or.inr (by decide)
      · exact Or.inl rfl
  | cons c s =>
      rw [guardFrom]
      split_ifs
      · exact Or.inr rfl
      · exact Or.inl rfl

theorem getLast?_guardFrom (before s : List Char) :
    (guardFrom before s).getLast? = s.getLast? ∨ (guardFrom before s).getLast? = some 'S' := by
  induction s generalizing before with
  | nil =>
      rw [guardFrom]
      split_ifs
      · exact Or.inr (by decide)
      · exact Or.inl rfl
  | cons c s ih =>
      rw [guardFrom, List.getLast?_append_of_ne_nil _ (List.cons_ne_nil _ _), List.getLast?_cons,
        List.getLast?_cons]
      rcases ih (c :: before) with hlast | hlast
      · exact Or.inl (by rw [hlast])
      · exact Or.inr (by rw [hlast, Option.getD_some])

/-- Two characters that are not in the clause stand side by side only where they did. -/
theorem infix_of_infix_guardFrom {x y : Char} (hx : x ∉ " IF NOT EXISTS".toList)
    (hy : y ∉ " IF NOT EXISTS".toList) {before s : List Char}
    (h : [x, y] <:+: guardFrom before s) : [x, y] <:+: s := by
  induction s generalizing before with
  | nil =>
      obtain ⟨front, back, hsplit⟩ := h
      have hmem : x ∈ guardFrom before [] := by
        rw [← hsplit]
        simp
      exact ((mem_guardFrom hmem).elim hx List.not_mem_nil).elim
  | cons c s ih =>
      have hcons : [x, y] <:+: c :: guardFrom (c :: before) s := by
        rw [guardFrom] at h
        have hnone : x ∉ if lacksGuard before (c :: s) = true then " IF NOT EXISTS".toList
            else [] := by
          split_ifs
          · exact hx
          · exact List.not_mem_nil
        rcases List.infix_append_iff.mp h with
          hclause | hrest | ⟨front, back, hsplit, hclause, hback⟩
        · exact absurd (hclause.subset List.mem_cons_self) hnone
        · exact hrest
        · cases front with
          | nil =>
              rw [hsplit]
              exact hback.isInfix
          | cons d front =>
              obtain ⟨rfl, -⟩ := List.cons.inj hsplit
              exact absurd (hclause.subset List.mem_cons_self) hnone
      rcases List.infix_cons_iff.mp hcons with hprefix | hrest
      · obtain ⟨rfl, hy'⟩ := List.cons_prefix_cons.mp hprefix
        have hhead : (guardFrom (x :: before) s).head? = some y := by
          obtain ⟨rest, hrest⟩ := hy'
          rw [← hrest]
          rfl
        rcases head?_guardFrom (x :: before) s with hsame | hspace
        · rw [hsame] at hhead
          cases s with
          | nil => cases hhead
          | cons d s =>
              cases hhead
              exact ⟨[], s, rfl⟩
        · rw [hspace] at hhead
          cases hhead
          exact absurd (by decide) hy
      · exact (ih hrest).trans (List.infix_cons (List.infix_refl s))

/-! ### Segments

A statement is put together from words, blanks, quoted texts and parentheses. A piece is a segment
if what becomes of it depends on nothing around it, as long as what follows is detached. Segments in
a row then become what each of them becomes.
-/

/-- Whether a text is treated behind any word as if it stood alone. -/
def Detached (rest : List Char) : Prop :=
  ∀ word : List Char, ' ' ∉ word → guarded (word ++ rest) = word ++ guarded rest

theorem detached_nil : Detached [] := by
  intro word hword
  have hnone : lacksGuard (word.reverse ++ []) [] = false :=
    lacksGuard_of_not_mem (by simpa using hword) []
  rw [guarded, guardFrom_word List.not_mem_nil hword, guardFrom, hnone]
  rfl

/-- A word in front of a character in no word is left, and what follows is treated on its own,
unless this character is the space of a head. -/
theorem guarded_word_cons {x : Char} (hx : Text.isWordChar x = false) {word : List Char}
    (hword : ' ' ∉ word) {rest : List Char}
    (h : "TABLE".toList <+: rest → ¬ ' ' :: "CREATE".toList.reverse <+: x :: word.reverse) :
    guarded (word ++ x :: rest) = word ++ x :: guarded rest := by
  have hlacks : lacksGuard (word.reverse ++ []) (x :: rest) = false :=
    lacksGuard_of_not_mem (by simpa using hword) (x :: rest)
  rw [guarded, guardFrom_word List.not_mem_nil hword, guardFrom_of_lacksGuard_eq_false hlacks,
    List.append_nil, guardFrom_cons hx h]

theorem detached_cons {x : Char} (hx : Text.isWordChar x = false) (hne : x ≠ ' ')
    (rest : List Char) : Detached (x :: rest) := by
  intro word hword
  rw [guarded_cons hx, guarded_word_cons hx hword]
  exact fun _ hprefix => hne (List.cons_prefix_cons.mp hprefix).1.symm

theorem detached_space {rest : List Char} (h : ¬ "TABLE".toList <+: rest) :
    Detached (' ' :: rest) := by
  intro word hword
  rw [guarded_cons (by decide), guarded_word_cons (by decide) hword fun htable => absurd htable h]

/-- What a text becomes in front of detached texts, which are detached from all that is in front of
the text as well. -/
structure Segment (text becomes : List Char) : Prop where
  guarded_append : ∀ rest, Detached rest → guarded (text ++ rest) = becomes ++ guarded rest
  detached : ∀ rest, Detached rest → Detached (text ++ rest)

namespace Segment

theorem guarded_eq {text becomes : List Char} (h : Segment text becomes) :
    guarded text = becomes := by
  have hnil := h.guarded_append [] detached_nil
  have hguard : guarded [] = [] := by decide
  rwa [List.append_nil, hguard, List.append_nil] at hnil

theorem append {a b a' b' : List Char} (ha : Segment a a') (hb : Segment b b') :
    Segment (a ++ b) (a' ++ b') where
  guarded_append := by
    intro rest hrest
    rw [List.append_assoc, ha.guarded_append _ (hb.detached rest hrest),
      hb.guarded_append rest hrest, List.append_assoc]
  detached := by
    intro rest hrest
    rw [List.append_assoc]
    exact ha.detached _ (hb.detached rest hrest)

theorem of_word {word : List Char} (hword : ' ' ∉ word) : Segment word word where
  guarded_append := fun rest hrest => hrest word hword
  detached := by
    intro rest hrest front hfront
    have hboth : ' ' ∉ front ++ word := List.not_mem_append hfront hword
    rw [← List.append_assoc, hrest _ hboth, hrest word hword, List.append_assoc]

theorem nil : Segment [] [] :=
  .of_word List.not_mem_nil

theorem of_spaced {word : List Char} (hword : ' ' ∉ word)
    (htable : ∀ rest, ¬ "TABLE".toList <+: word ++ rest) :
    Segment (' ' :: word) (' ' :: word) where
  guarded_append := by
    intro rest hrest
    rw [List.cons_append, guarded_cons (by decide), hrest word hword]
    rfl
  detached := fun rest _ => detached_space (htable rest)

/-- A word between spaces is left, unless it could be in a head. -/
theorem of_spaces {word : List Char} (hword : ' ' ∉ word)
    (htable : ∀ rest, ¬ "TABLE".toList <+: word ++ rest) (hcreate : ¬ "CREATE".toList <:+ word) :
    Segment (' ' :: (word ++ [' '])) (' ' :: (word ++ [' '])) where
  guarded_append := by
    intro rest _
    have hblank : Text.isWordChar ' ' = false := by decide
    rw [List.cons_append, guarded_cons hblank, List.append_assoc, List.singleton_append,
      guarded_word_cons hblank hword]
    · simp
    · intro _ hprefix
      refine hcreate (List.reverse_prefix.mp ?_)
      exact (List.cons_prefix_cons.mp hprefix).2
  detached := by
    intro rest _
    have hrest := htable ([' '] ++ rest)
    rw [← List.append_assoc] at hrest
    exact detached_space hrest

theorem of_barriers {x y : Char} (hx : IsBarrier x) (hy : IsBarrier y) (inner : List Char)
    {gap : List Char} (hgap : ∀ c ∈ gap, Text.isWordChar c = false) :
    Segment (x :: (inner ++ y :: gap)) (x :: (guarded inner ++ y :: gap)) where
  guarded_append := by
    intro rest _
    rw [List.cons_append, List.append_assoc, List.cons_append, guarded_cons hx.1,
      guarded_append_barrier hy, guarded_gap hgap]
    simp
  detached := fun rest _ => detached_cons hx.1 (fun heq => absurd (heq ▸ hx.2) (by decide)) _

theorem of_gap {x : Char} (hx : Text.isWordChar x = false) (hne : x ≠ ' ') {gap : List Char}
    (hgap : ∀ c ∈ gap, Text.isWordChar c = false) : Segment (x :: gap) (x :: gap) where
  guarded_append := by
    intro rest _
    rw [List.cons_append, guarded_cons hx, guarded_gap hgap]
    rfl
  detached := fun rest _ => detached_cons hx hne _

end Segment

end RelSchema.Ddl
