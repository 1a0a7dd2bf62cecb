import Mathlib.Data.Nat.Find
import RelSchema.Proofs.Ddl.Guard
import RelSchema.Proofs.Text.Cut
import RelSchema.Proofs.Text.Trim

/-!
# Heads without the clause

A head is open where `IF NOT EXISTS` is missing behind `CREATE TABLE`. A text is taken apart at its
open heads: the clause is put behind each, which closes it, and neither the clause nor what stands
around it opens another one. Main statement: the clause is put at the ends of the open heads and
nowhere else, and a text with it is left as it is.
-/

namespace RelSchema.Ddl

/-- Whether the text starts with the words, with blanks in front of each of them. -/
def StartsWithWords : List String → List Char → Prop
  | [], _ => True
  | word :: words, s => ∃ gap rest, s = gap ++ (word.toList ++ rest) ∧ gap ≠ [] ∧
      (∀ c ∈ gap, Text.isBlank c = true) ∧ StartsWithWords words rest

/-- Whether the words `CREATE TABLE`, which are no parts of longer ones, end at the index without
the clause behind them. -/
def IsOpenHead (s : List Char) (i : Nat) : Prop :=
  ∃ before after, s = before ++ "CREATE TABLE".toList ++ after ∧
    i = (before ++ "CREATE TABLE".toList).length ∧
    (∀ c ∈ before.getLast?, Text.isWordChar c = false) ∧
    (∀ c ∈ after.head?, Text.isWordChar c = false) ∧ ¬ StartsWithWords ["IF", "NOT", "EXISTS"] after

/-- A word behind blanks is found exactly if it stands there. -/
theorem dropBlankWord?_eq_some_iff {word : String} (hne : word.toList ≠ [])
    (hfirst : ∀ c ∈ word.toList.head?, Text.isBlank c = false) {s rest : List Char} :
    dropBlankWord? word s = some rest ↔ ∃ gap, s = gap ++ (word.toList ++ rest) ∧ gap ≠ [] ∧
      ∀ c ∈ gap, Text.isBlank c = true := by
  constructor
  · intro h
    cases s with
    | nil => cases h
    | cons c s =>
        rw [dropBlankWord?] at h
        split_ifs at h with hc
        refine ⟨c :: s.takeWhile Text.isBlank, ?_, List.cons_ne_nil _ _,
          List.forall_mem_cons.mpr ⟨hc, fun d hd => List.mem_takeWhile_imp hd⟩⟩
        rw [← Text.eq_append_of_dropPrefix? h, List.cons_append]
        exact congrArg (c :: ·) List.takeWhile_append_dropWhile.symm
  · rintro ⟨gap, rfl, hgap, hblank⟩
    obtain ⟨c, gap, rfl⟩ := List.exists_cons_of_ne_nil hgap
    obtain ⟨hc, hblank⟩ := List.forall_mem_cons.mp hblank
    have htrim : Text.trimLeft (word.toList ++ rest) = word.toList ++ rest := by
      refine Text.trimLeft_eq_self fun d hd => hfirst d ?_
      obtain ⟨first, others, hword⟩ := List.exists_cons_of_ne_nil hne
      rw [hword] at hd ⊢
      exact hd
    rw [List.cons_append, dropBlankWord?, if_pos hc, Text.trimLeft_append_of_all hblank, htrim,
      Text.dropPrefix?_append]

theorem isSome_foldlM_iff {words : List String} (hwords : ∀ word ∈ words, word.toList ≠ [] ∧
    ∀ c ∈ word.toList.head?, Text.isBlank c = false) {s : List Char} :
    (words.foldlM (fun s word => dropBlankWord? word s) s).isSome = true ↔
      StartsWithWords words s := by
  induction words generalizing s with
  | nil => exact iff_of_true rfl trivial
  | cons word words ih =>
      obtain ⟨⟨hne, hfirst⟩, hwords⟩ := List.forall_mem_cons.mp hwords
      rw [List.foldlM_cons, StartsWithWords]
      constructor
      · intro h
        cases hdrop : dropBlankWord? word s with
        | none =>
            rw [hdrop] at h
            cases h
        | some rest =>
            rw [hdrop] at h
            obtain ⟨gap, hs, hgap, hblank⟩ := (dropBlankWord?_eq_some_iff hne hfirst).mp hdrop
            exact ⟨gap, rest, hs, hgap, hblank, (ih hwords).mp h⟩
      · rintro ⟨gap, rest, hs, hgap, hblank, hrest⟩
        rw [(dropBlankWord?_eq_some_iff hne hfirst).mpr ⟨gap, hs, hgap, hblank⟩]
        exact (ih hwords).mpr hrest

theorem startsWithGuard_iff {s : List Char} :
    startsWithGuard s = true ↔ StartsWithWords ["IF", "NOT", "EXISTS"] s := by
  have hwords : ∀ word ∈ ["IF", "NOT", "EXISTS"], word.toList ≠ [] ∧
      ∀ c ∈ word.toList.head?, Text.isBlank c = false := by decide
  have hfold : (["IF", "NOT", "EXISTS"].foldlM (fun s word => dropBlankWord? word s) s).isSome
      = startsWithGuard s := by
    simp [startsWithGuard, Option.bind_assoc]
  rw [← hfold]
  exact isSome_foldlM_iff hwords

theorem startsWithGuard_eq_false_iff {s : List Char} :
    startsWithGuard s = false ↔ ¬ StartsWithWords ["IF", "NOT", "EXISTS"] s := by
  rw [← startsWithGuard_iff, Bool.not_eq_true]

theorem hasHead_iff {s : List Char} : HasHead s ↔ ∃ i, IsOpenHead s i := by
  constructor
  · rintro ⟨before, after, hs, hbefore, hafter, hguard⟩
    refine ⟨_, before, after, ?_, rfl, hbefore, hafter, startsWithGuard_eq_false_iff.mp hguard⟩
    rw [hs, List.append_assoc]
  · rintro ⟨_, before, after, hs, -, hbefore, hafter, hguard⟩
    refine ⟨before, after, ?_, hbefore, hafter, startsWithGuard_eq_false_iff.mpr hguard⟩
    rw [hs, List.append_assoc]

theorem isOpenHead_append_iff {a b : List Char} :
    IsOpenHead (a ++ b) a.length ↔ lacksGuard a.reverse b = true := by
  rw [lacksGuard_iff, endsWithHead_iff]
  constructor
  · rintro ⟨before, after, hsplit, hlength, hbefore, hafter, hguard⟩
    obtain ⟨rfl, rfl⟩ := List.append_inj hsplit hlength
    refine ⟨⟨before.reverse, by rw [List.reverse_append, reversedHead], ?_⟩, hafter,
      startsWithGuard_eq_false_iff.mpr hguard⟩
    rwa [List.head?_reverse]
  · rintro ⟨⟨earlier, ha, hearlier⟩, hafter, hguard⟩
    have hfront : a = earlier.reverse ++ "CREATE TABLE".toList := by
      rw [← List.reverse_inj, ha, List.reverse_append, List.reverse_reverse, reversedHead]
    refine ⟨earlier.reverse, b, by rw [← hfront], by rw [← hfront], ?_, hafter,
      startsWithGuard_eq_false_iff.mp hguard⟩
    rwa [List.getLast?_reverse]

theorem IsOpenHead.exists_append {s : List Char} {i : Nat} (h : IsOpenHead s i) :
    ∃ a b, s = a ++ b ∧ i = a.length := by
  obtain ⟨before, after, rfl, rfl, -⟩ := h
  exact ⟨_, _, rfl, rfl⟩

theorem guarded_of_forall {s : List Char} (h : ∀ i, ¬ IsOpenHead s i) : guarded s = s :=
  guarded_eq_self_iff.mpr fun hhead => not_exists.mpr h (hasHead_iff.mp hhead)

/-- A text with the clause in front is left, and what follows it is treated on its own. -/
theorem guardFrom_clause_append {before rest : List Char}
    (hrest : ∀ c ∈ rest.head?, Text.isWordChar c = false) :
    guardFrom before (" IF NOT EXISTS".toList ++ rest)
      = " IF NOT EXISTS".toList ++ guarded rest := by
  have hblank : Text.isWordChar ' ' = false := by decide
  have hstarts : startsWithGuard (" IF NOT EXISTS".toList ++ rest) = true :=
    startsWithGuard_iff.mpr ⟨[' '], " NOT EXISTS".toList ++ rest, rfl, by decide, by decide,
      [' '], " EXISTS".toList ++ rest, rfl, by decide, by decide, [' '], rest, rfl, by decide,
      by decide, trivial⟩
  have hlacks : lacksGuard before (" IF NOT EXISTS".toList ++ rest) = false := by
    rw [lacksGuard, hstarts, Bool.not_true, Bool.and_false]
  have hexists : guarded ("EXISTS".toList ++ rest) = "EXISTS".toList ++ guarded rest := by
    cases rest with
    | nil => exact detached_nil _ (by decide)
    | cons x rest =>
        have hx := hrest x rfl
        rw [guarded_word_cons hx (by decide), guarded_cons hx]
        exact fun _ hprefix => absurd (List.cons_prefix_cons.mp hprefix).2 (by decide)
  have hnot : guarded ("NOT".toList ++ ' ' :: ("EXISTS".toList ++ rest))
      = "NOT".toList ++ ' ' :: ("EXISTS".toList ++ guarded rest) := by
    rw [guarded_word_cons hblank (by decide) fun _ => by decide, hexists]
  have hif : guarded ("IF".toList ++ ' ' :: ("NOT".toList ++ ' ' :: ("EXISTS".toList ++ rest)))
      = "IF".toList ++ ' ' :: ("NOT".toList ++ ' ' :: ("EXISTS".toList ++ guarded rest)) := by
    rw [guarded_word_cons hblank (by decide) fun _ => by decide, hnot]
  refine (guardFrom_of_lacksGuard_eq_false hlacks).trans ?_
  refine congrArg (' ' :: ·) ((guardFrom_cons hblank fun htable => ?_).trans hif)
  exact absurd (List.cons_prefix_cons.mp htable).1 (by decide)

/-- Behind a character that is neither blank nor in the clause, a text is of no account for what
stands in front of the character. -/
theorem lacksGuard_append_cons {x : Char} (hblank : Text.isBlank x = false)
    (hwords : ∀ word ∈ ["IF", "NOT", "EXISTS"], x ∉ word.toList)
    (before s rest rest' : List Char) :
    lacksGuard before (s ++ x :: rest) = lacksGuard before (s ++ x :: rest') := by
  rw [lacksGuard, lacksGuard, startsWithGuard_append hblank hwords,
    startsWithGuard_append hblank hwords]
  cases s <;> rfl

/-- Whether the first open head of a text made of two ends with the first one. -/
structure FirstHead (front after : List Char) : Prop where
  isOpenHead : IsOpenHead (front ++ after) front.length
  first : ∀ i < front.length, ¬ IsOpenHead (front ++ after) i

namespace FirstHead

variable {front after : List Char} (h : FirstHead front after)

include h

theorem lacksGuard_eq : lacksGuard front.reverse after = true :=
  isOpenHead_append_iff.mp h.isOpenHead

theorem isWordChar_head : ∀ c ∈ after.head?, Text.isWordChar c = false :=
  (lacksGuard_iff.mp h.lacksGuard_eq).2.1

theorem reverse_front : ∃ earlier, front.reverse = reversedHead ++ earlier :=
  have ⟨earlier, hfront, _⟩ := endsWithHead_iff.mp (lacksGuard_iff.mp h.lacksGuard_eq).1
  ⟨earlier, hfront⟩

theorem front_ne_nil : front ≠ [] := by
  rintro rfl
  obtain ⟨earlier, hnil⟩ := h.reverse_front
  exact List.cons_ne_nil _ _ hnil.symm

theorem not_prefix (x : Char) : ¬ ' ' :: "CREATE".toList.reverse <+: x :: front.reverse := by
  obtain ⟨earlier, hfront⟩ := h.reverse_front
  rw [hfront, List.cons_prefix_cons]
  rintro ⟨-, hwords⟩
  have hshort : "CREATE".toList.reverse <+: reversedHead :=
    List.prefix_of_prefix_length_le hwords (List.prefix_append _ _) (by decide)
  exact absurd hshort (by decide)

/-- Nowhere in front of the first open head is the clause missing, whatever is put behind it. -/
theorem lacksGuard_eq_false {a b : List Char} (hsplit : front = a ++ b) (hb : b ≠ [])
    (rest : List Char) : lacksGuard a.reverse (b ++ rest) = false := by
  obtain ⟨earlier, hfront⟩ := h.reverse_front
  have hends : a ++ b = (earlier.reverse ++ "CREATE TAB".toList) ++ "LE".toList := by
    rw [← hsplit, ← List.reverse_reverse front, hfront, List.reverse_append, List.append_assoc]
    rfl
  rcases List.append_eq_append_iff.mp hends with ⟨c, -, rfl⟩ | ⟨c, -, hc⟩
  · -- an `L` can be in no clause, so that what stands behind it is of no account
    have hfirst : lacksGuard a.reverse (c ++ "LE".toList ++ after) = false := by
      refine Bool.eq_false_iff.mpr fun hlacks => h.first a.length ?_ ?_
      · rw [hsplit, List.length_append]
        exact Nat.lt_add_of_pos_right (List.length_pos_of_ne_nil hb)
      · rw [hsplit, List.append_assoc]
        exact isOpenHead_append_iff.mpr hlacks
    rw [List.append_assoc] at hfirst ⊢
    rw [← hfirst]
    exact lacksGuard_append_cons (by decide) (by decide) _ _ _ _
  · refine Bool.eq_false_iff.mpr fun hlacks => ?_
    obtain ⟨d, b, rfl⟩ := List.exists_cons_of_ne_nil hb
    have hletters : ∀ d ∈ "LE".toList, Text.isWordChar d = true := by decide
    have hletter := hletters d (hc ▸ List.mem_append_right c List.mem_cons_self)
    have hnone := (lacksGuard_iff.mp hlacks).2.1 d rfl
    rw [hletter] at hnone
    cases hnone

theorem guarded_append (rest : List Char) :
    guarded (front ++ rest) = front ++ guardFrom front.reverse rest := by
  have hfront : ∀ a b, front = a ++ b → b ≠ [] → lacksGuard (a.reverse ++ []) (b ++ rest) = false :=
    fun a b hsplit hb => by
      rw [List.append_nil]
      exact h.lacksGuard_eq_false hsplit hb rest
  rw [guarded, guardFrom_append_of_forall hfront, List.append_nil]

theorem guarded_eq :
    guarded (front ++ after) = front ++ (" IF NOT EXISTS".toList ++ guarded after) := by
  rw [h.guarded_append]
  congr 1
  cases after with
  | nil =>
      have hnil : guarded [] = [] := by decide
      rw [guardFrom, if_pos h.lacksGuard_eq, hnil, List.append_nil]
  | cons c after =>
      have hc := h.isWordChar_head c rfl
      rw [guardFrom, if_pos h.lacksGuard_eq, guardFrom_cons hc fun _ => h.not_prefix c,
        guarded_cons hc]

theorem guarded_clause {rest : List Char} (hrest : ∀ c ∈ rest.head?, Text.isWordChar c = false) :
    guarded (front ++ (" IF NOT EXISTS".toList ++ rest))
      = front ++ (" IF NOT EXISTS".toList ++ guarded rest) := by
  rw [h.guarded_append, guardFrom_clause_append hrest]

/-- Behind the first head, the others are open as if nothing stood in front. -/
theorem isOpenHead_append_length {c : Char} {a b : List Char} (hafter : after = c :: a ++ b) :
    IsOpenHead (front ++ after) (front ++ c :: a).length ↔ IsOpenHead after (c :: a).length := by
  subst hafter
  have hc := h.isWordChar_head c rfl
  have hshort : ¬ ' ' :: "CREATE".toList.reverse <+: [c] := fun hprefix =>
    absurd (show 7 ≤ 1 from hprefix.length_le) (by decide)
  have hends : endsWithHead (front ++ c :: a).reverse = endsWithHead (c :: a).reverse := by
    rw [List.reverse_append, List.reverse_cons, List.append_assoc, List.singleton_append,
      endsWithHead_append hc fun _ => h.not_prefix c, endsWithHead_append hc fun _ => hshort]
  rw [← List.append_assoc, isOpenHead_append_iff, isOpenHead_append_iff, lacksGuard, lacksGuard,
    hends]

theorem isOpenHead_iff {i : Nat} : IsOpenHead (front ++ after) i ↔
    i = front.length ∨ ∃ j, i = front.length + j ∧ IsOpenHead after j := by
  constructor
  · intro hopen
    obtain ⟨a, b, hsplit, rfl⟩ := hopen.exists_append
    rcases List.append_eq_append_iff.mp hsplit with ⟨c, rfl, hafter⟩ | ⟨c, hfront, -⟩
    · cases c with
      | nil => exact Or.inl (by rw [List.append_nil])
      | cons c a =>
          exact Or.inr ⟨_, List.length_append, (h.isOpenHead_append_length hafter).mp hopen⟩
    · have hle : a.length ≤ front.length := by
        rw [hfront, List.length_append]
        exact Nat.le_add_right _ _
      exact Or.inl (hle.eq_of_not_lt fun hlt => h.first a.length hlt hopen)
  · rintro (rfl | ⟨j, rfl, hopen⟩)
    · exact h.isOpenHead
    · obtain ⟨a, b, hafter, rfl⟩ := hopen.exists_append
      cases a with
      | nil => exact h.isOpenHead
      | cons c a =>
          rw [← List.length_append]
          exact (h.isOpenHead_append_length hafter).mpr hopen

theorem isWordChar_guarded : ∀ c ∈ (guarded after).head?, Text.isWordChar c = false := by
  intro c hc
  rcases head?_guardFrom [] after with hsame | hspace
  · exact h.isWordChar_head c (hsame ▸ hc)
  · obtain rfl : ' ' = c := Option.some.inj (hspace.symm.trans hc)
    decide

end FirstHead

theorem exists_firstHead {s : List Char} (h : ∃ i, IsOpenHead s i) :
    ∃ front after, s = front ++ after ∧ FirstHead front after := by
  classical
  obtain ⟨front, after, rfl, hlength⟩ := (Nat.find_spec h).exists_append
  refine ⟨front, after, rfl, ?_, fun i hi => ?_⟩
  · rw [← hlength]
    exact Nat.find_spec h
  · rw [← hlength] at hi
    exact Nat.find_min h hi

theorem head_induction {motive : List Char → Prop}
    (closed : ∀ s, (∀ i, ¬ IsOpenHead s i) → motive s)
    (step : ∀ front after, FirstHead front after → motive after → motive (front ++ after))
    (s : List Char) : motive s := by
  induction hn : s.length using Nat.strong_induction_on generalizing s with
  | _ n ih =>
      by_cases hex : ∃ i, IsOpenHead s i
      · obtain ⟨front, after, rfl, hfirst⟩ := exists_firstHead hex
        refine step front after hfirst (ih after.length ?_ after rfl)
        have hpos := List.length_pos_of_ne_nil hfirst.front_ne_nil
        rw [← hn, List.length_append]
        omega
      · exact closed s (not_exists.mp hex)

/-- A text with the clause wherever it was missing is left. -/
theorem guarded_guarded (s : List Char) : guarded (guarded s) = guarded s := by
  induction s using head_induction with
  | closed s h => rw [guarded_of_forall h, guarded_of_forall h]
  | step front after h ih => rw [h.guarded_eq, h.guarded_clause h.isWordChar_guarded, ih]

/-- The text is parted at its open heads, and the clause comes between the parts. -/
theorem exists_parts (s : List Char) : ∃ parts, parts ≠ [] ∧ [] ∉ parts.dropLast ∧
    [].intercalate parts = s ∧ " IF NOT EXISTS".toList.intercalate parts = guarded s ∧
    ∀ i, Text.IsJoint [] parts i ↔ IsOpenHead s i := by
  induction s using head_induction with
  | closed s h =>
      refine ⟨[s], List.cons_ne_nil _ _, List.not_mem_nil, List.intercalate_singleton, ?_,
        fun i => iff_of_false Text.not_isJoint_singleton (h i)⟩
      rw [List.intercalate_singleton, guarded_of_forall h]
  | step front after h ih =>
      obtain ⟨parts, hne, hfull, hjoin, hguarded, hjoints⟩ := ih
      refine ⟨front :: parts, List.cons_ne_nil _ _, ?_, ?_, ?_, fun i => ?_⟩
      · rw [List.dropLast_cons_of_ne_nil hne]
        exact List.not_mem_cons_of_ne_of_not_mem h.front_ne_nil.symm hfull
      · rw [List.intercalate_cons_of_ne_nil hne, hjoin, List.append_nil]
      · rw [List.intercalate_cons_of_ne_nil hne, hguarded, h.guarded_eq, List.append_assoc]
      · rw [Text.isJoint_cons_iff hne, h.isOpenHead_iff]
        exact or_congr_right (exists_congr fun j => and_congr Iff.rfl (hjoints j))

/-- A script with the clause is left as it is, and it is the script it was made of, parted at the
open heads with the clause between the parts. -/
theorem ifNotExists_parts (script : String) :
    ifNotExists (ifNotExists script) = ifNotExists script ∧
      ∃ parts : List (List Char), [] ∉ parts.dropLast ∧ [].intercalate parts = script.toList ∧
        " IF NOT EXISTS".toList.intercalate parts = (ifNotExists script).toList ∧
        ∀ i, Text.IsJoint [] parts i ↔ IsOpenHead script.toList i := by
  constructor
  · rw [ifNotExists_eq_iff, toList_ifNotExists, guarded_guarded]
  · obtain ⟨parts, -, hfull, hjoin, hguarded, hjoints⟩ := exists_parts script.toList
    exact ⟨parts, hfull, hjoin, hguarded.trans (toList_ifNotExists script).symm, hjoints⟩

end RelSchema.Ddl
