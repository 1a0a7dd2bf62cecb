import Mathlib.Data.List.Basic
import Mathlib.Tactic.Common
import RelSchema.Text.Trim

/-!
# Cutting texts

The parts that a cut finds, read off from how the text is put together: the longest start that
satisfies a test, the parts around the first mark, the parts between all marks, and the lines. A
word without a mark occurs in one of the parts, if it does in the text. The joints of a text that is
put together of parts, with the same gap between each two of them, are the places of its gaps; with
an empty gap they are the places at which the text was cut.
-/

namespace RelSchema.Text

variable {α : Type} {p : α → Bool}

theorem takeWhile_append_eq {a b : List α} (ha : ∀ c ∈ a, p c = true)
    (hb : ∀ c ∈ b.head?, p c = false) : (a ++ b).takeWhile p = a := by
  rw [List.takeWhile_append_of_pos ha]
  cases b with
  | nil => simp
  | cons c b => simp [hb c rfl]

theorem dropWhile_append_eq {a b : List α} (ha : ∀ c ∈ a, p c = true)
    (hb : ∀ c ∈ b.head?, p c = false) : (a ++ b).dropWhile p = b := by
  rw [List.dropWhile_append_of_pos ha]
  cases b with
  | nil => rfl
  | cons c b => rw [List.dropWhile_cons_of_neg (by simp [hb c rfl])]

theorem cutAt?_eq_none {mark : Char} {s : List Char} (hs : mark ∉ s) : cutAt? mark s = none := by
  induction s with
  | nil => rfl
  | cons c s ih =>
      have hc : (c == mark) = false := beq_eq_false_iff_ne.mpr fun h => hs (h ▸ List.mem_cons_self)
      have hrest : cutWhere? (· == mark) s = none := ih fun h => hs (List.mem_cons_of_mem c h)
      rw [cutAt?, cutWhere?, hc, hrest]
      rfl

/-- A text is cut at the mark that no other stands in front of. -/
theorem cutAt?_append {mark : Char} {before : List Char} (hbefore : mark ∉ before)
    (rest : List Char) : cutAt? mark (before ++ mark :: rest) = some (before, rest) := by
  induction before with
  | nil =>
      rw [List.nil_append, cutAt?, cutWhere?, beq_self_eq_true]
      rfl
  | cons c before ih =>
      have hc : (c == mark) = false :=
        beq_eq_false_iff_ne.mpr fun h => hbefore (h ▸ List.mem_cons_self)
      have hrest : cutWhere? (· == mark) (before ++ mark :: rest) = some (before, rest) :=
        ih fun h => hbefore (List.mem_cons_of_mem c h)
      rw [List.cons_append, cutAt?, cutWhere?, hc, hrest]
      rfl

theorem cutAtLast?_append {mark : Char} (before : List Char) {rest : List Char}
    (hrest : mark ∉ rest) : cutAtLast? mark (before ++ mark :: rest) = some (before, rest) := by
  have hreversed : (before ++ mark :: rest).reverse = rest.reverse ++ mark :: before.reverse := by
    simp
  rw [cutAtLast?, hreversed, cutAt?_append (by simpa using hrest)]
  simp

theorem eq_append_of_cutAt? {mark : Char} {s before rest : List Char}
    (h : cutAt? mark s = some (before, rest)) : s = before ++ mark :: rest ∧ mark ∉ before := by
  induction s generalizing before with
  | nil => cases h
  | cons c s ih =>
      unfold cutAt? cutWhere? at h
      split_ifs at h with hc
      · cases h
        rw [beq_iff_eq.mp hc]
        exact ⟨rfl, List.not_mem_nil⟩
      · obtain ⟨⟨front, behind⟩, hcut, hfront⟩ := Option.map_eq_some_iff.mp h
        cases hfront
        obtain ⟨rfl, hmark⟩ := ih hcut
        refine ⟨rfl, fun hmem => ?_⟩
        rcases List.mem_cons.mp hmem with rfl | hmem
        · exact hc (beq_self_eq_true mark)
        · exact hmark hmem

theorem dropPrefix?_append [BEq α] [LawfulBEq α] (start rest : List α) :
    dropPrefix? start (start ++ rest) = some rest := by
  induction start with
  | nil => rfl
  | cons a start ih =>
      rw [List.cons_append, dropPrefix?, if_pos (beq_self_eq_true a)]
      exact ih

theorem eq_append_of_dropPrefix? [BEq α] [LawfulBEq α] {start s rest : List α}
    (h : dropPrefix? start s = some rest) : s = start ++ rest := by
  induction start generalizing s with
  | nil => exact Option.some.inj h
  | cons a start ih =>
      cases s with
      | nil => cases h
      | cons c s =>
          rw [dropPrefix?] at h
          split_ifs at h with hc
          rw [eq_of_beq hc, ih h]
          rfl

/-- A start that a text behind cannot complete is the start of a text without it. -/
theorem dropPrefix?_append_of_not_prefix [BEq α] [LawfulBEq α] {start s rest : List α}
    (h : ∀ back, start = s ++ back → back <+: rest → back = []) :
    dropPrefix? start (s ++ rest) = (dropPrefix? start s).map (· ++ rest) := by
  induction start generalizing s with
  | nil => rfl
  | cons a start ih =>
      cases s with
      | nil =>
          cases hdrop : dropPrefix? (a :: start) rest with
          | none => exact hdrop
          | some found =>
              have hprefix := eq_append_of_dropPrefix? hdrop
              cases h (a :: start) rfl ⟨found, hprefix.symm⟩
      | cons c s =>
          rw [List.cons_append, dropPrefix?, dropPrefix?]
          by_cases hc : (a == c) = true
          · rw [if_pos hc, if_pos hc]
            refine ih fun back hback => h back ?_
            rw [hback, eq_of_beq hc]
            rfl
          · rw [if_neg hc, if_neg hc]
            rfl

theorem splitWhere_ne_nil (p : α → Bool) (s : List α) : splitWhere p s ≠ [] := by
  induction s with
  | nil => exact List.cons_ne_nil _ _
  | cons a s ih =>
      obtain ⟨part, parts, hparts⟩ := List.exists_cons_of_ne_nil ih
      rw [splitWhere, hparts]
      dsimp only
      split_ifs <;> exact List.cons_ne_nil _ _

theorem splitWhere_cons_of_pos {a : α} (ha : p a = true) (s : List α) :
    splitWhere p (a :: s) = [] :: splitWhere p s := by
  obtain ⟨part, parts, hparts⟩ := List.exists_cons_of_ne_nil (splitWhere_ne_nil p s)
  rw [splitWhere, hparts]
  exact if_pos ha

theorem splitWhere_cons_of_neg {a : α} (ha : p a = false) {s part : List α} {parts : List (List α)}
    (hparts : splitWhere p s = part :: parts) :
    splitWhere p (a :: s) = (a :: part) :: parts := by
  rw [splitWhere, hparts]
  exact if_neg (by rw [ha]; exact Bool.false_ne_true)

theorem splitWhere_of_all {s : List α} (hs : ∀ a ∈ s, p a = false) : splitWhere p s = [s] := by
  induction s with
  | nil => rfl
  | cons a s ih =>
      obtain ⟨ha, hrest⟩ := List.forall_mem_cons.mp hs
      exact splitWhere_cons_of_neg ha (ih hrest)

theorem splitWhere_append {a : α} (ha : p a = true) (s t : List α) :
    splitWhere p (s ++ a :: t) = splitWhere p s ++ splitWhere p t := by
  induction s with
  | nil => exact splitWhere_cons_of_pos ha t
  | cons b s ih =>
      obtain ⟨part, parts, hparts⟩ := List.exists_cons_of_ne_nil (splitWhere_ne_nil p s)
      rw [hparts] at ih
      cases hb : p b with
      | true =>
          rw [List.cons_append, splitWhere_cons_of_pos hb, splitWhere_cons_of_pos hb, ih, hparts]
          rfl
      | false =>
          rw [List.cons_append, splitWhere_cons_of_neg hb ih, splitWhere_cons_of_neg hb hparts]
          rfl

/-- The parts hold what is kept, and nothing else. -/
theorem of_mem_splitWhere {s part : List α} (hpart : part ∈ splitWhere p s) :
    ∀ a ∈ part, a ∈ s ∧ p a = false := by
  induction s generalizing part with
  | nil =>
      rw [List.mem_singleton.mp hpart]
      exact List.forall_mem_nil _
  | cons b s ih =>
      have hrest : ∀ {part : List α}, part ∈ splitWhere p s →
          ∀ a ∈ part, a ∈ b :: s ∧ p a = false := fun hpart a ha =>
        ⟨List.mem_cons_of_mem b (ih hpart a ha).1, (ih hpart a ha).2⟩
      cases hb : p b with
      | true =>
          rw [splitWhere_cons_of_pos hb] at hpart
          rcases List.mem_cons.mp hpart with rfl | hpart
          · exact List.forall_mem_nil _
          · exact hrest hpart
      | false =>
          obtain ⟨first, parts, hparts⟩ := List.exists_cons_of_ne_nil (splitWhere_ne_nil p s)
          rw [splitWhere_cons_of_neg hb hparts] at hpart
          rw [hparts] at hrest
          rcases List.mem_cons.mp hpart with rfl | hpart
          · exact List.forall_mem_cons.mpr ⟨⟨List.mem_cons_self, hb⟩, hrest List.mem_cons_self⟩
          · exact hrest (List.mem_cons_of_mem first hpart)

/-- A text is its parts with the marks between them. -/
theorem eq_append_of_splitAt {mark : Char} {s part : List Char} {parts : List (List Char)}
    (h : splitAt mark s = part :: parts) : s = part ++ parts.flatMap (mark :: ·) := by
  induction s generalizing part parts with
  | nil =>
      cases h
      rfl
  | cons c s ih =>
      obtain ⟨first, rest, hrest⟩ := List.exists_cons_of_ne_nil (splitWhere_ne_nil (· == mark) s)
      rw [splitAt, splitWhere, hrest] at h
      dsimp only at h
      split_ifs at h with hc <;> cases h
      · rw [beq_iff_eq.mp hc, ih hrest]
        rfl
      · rw [ih hrest]
        rfl

theorem flatten_splitWhere (p : α → Bool) (s : List α) :
    (splitWhere p s).flatten = s.filter (!p ·) := by
  induction s with
  | nil => rfl
  | cons a s ih =>
      obtain ⟨part, parts, hparts⟩ := List.exists_cons_of_ne_nil (splitWhere_ne_nil p s)
      rw [hparts] at ih
      cases ha : p a with
      | true =>
          rw [splitWhere_cons_of_pos ha, hparts, List.filter_cons_of_neg (by simp [ha]), ← ih]
          rfl
      | false =>
          rw [splitWhere_cons_of_neg ha hparts, List.filter_cons_of_pos (by simp [ha]), ← ih]
          rfl

/-- Some part is not empty exactly if some element is kept. -/
theorem exists_part_ne_nil_iff {s : List α} :
    (∃ part ∈ splitWhere p s, part ≠ []) ↔ ∃ a ∈ s, p a = false := by
  induction s with
  | nil => simp [splitWhere]
  | cons a s ih =>
      cases ha : p a with
      | true =>
          rw [splitWhere_cons_of_pos ha]
          simpa [ha] using ih
      | false =>
          obtain ⟨part, parts, hparts⟩ := List.exists_cons_of_ne_nil (splitWhere_ne_nil p s)
          rw [splitWhere_cons_of_neg ha hparts]
          simp [ha]

theorem occursIn_iff {word text : List Char} : occursIn word text = true ↔ word <:+: text := by
  induction text with
  | nil => rw [occursIn, List.isEmpty_iff, List.infix_nil]
  | cons c text ih =>
      rw [occursIn, Bool.or_eq_true, List.isPrefixOf_iff_prefix, ih, List.infix_cons_iff]

theorem isPrefixOf_append_cons {word : List Char} {separator : Char} (hword : separator ∉ word)
    (a b : List Char) : word.isPrefixOf (a ++ separator :: b) = word.isPrefixOf a := by
  induction word generalizing a with
  | nil => rfl
  | cons w word ih =>
      rw [List.mem_cons, not_or] at hword
      cases a with
      | nil => simp [List.isPrefixOf, Ne.symm hword.1]
      | cons c a => rw [List.cons_append, List.isPrefixOf, List.isPrefixOf, ih hword.2]

/-- A word without the separator occurs on one side of it. -/
theorem occursIn_append_cons {word : List Char} (hne : word ≠ []) {separator : Char}
    (hword : separator ∉ word) (a b : List Char) :
    occursIn word (a ++ separator :: b) = (occursIn word a || occursIn word b) := by
  induction a with
  | nil =>
      have hnil : word.isPrefixOf [] = false := by
        cases word with
        | nil => exact absurd rfl hne
        | cons => rfl
      have hempty : word.isEmpty = false := List.isEmpty_eq_false_iff.mpr hne
      have hstart := isPrefixOf_append_cons hword [] b
      rw [List.nil_append] at hstart ⊢
      rw [occursIn, occursIn, hstart, hnil, hempty]
  | cons c a ih =>
      have hstart := isPrefixOf_append_cons hword (c :: a) b
      rw [List.cons_append] at hstart ⊢
      rw [occursIn, occursIn, hstart, ih, Bool.or_assoc]

/-- A line without breaks inside is the first of its text. -/
theorem lines_append_break {line : List Char} (hline : ∀ c ∈ line, isLineBreak c = false)
    (rest : List Char) : lines (line ++ '\n' :: rest) = line :: lines rest := by
  -- the part of the line that is already read is held in reverse
  suffices hstart : ∀ start : List Char,
      linesAfter start (line ++ '\n' :: rest) = (start.reverse ++ line) :: lines rest by
    simpa [lines] using hstart []
  induction line with
  | nil =>
      intro start
      rw [List.nil_append, linesAfter, if_pos (by decide), List.append_nil]
      · rfl
      · exact fun _ h => absurd h (by decide)
  | cons c line ih =>
      intro start
      obtain ⟨hc, hrest⟩ := List.forall_mem_cons.mp hline
      rw [List.cons_append, linesAfter, if_neg (by simp [hc]), ih hrest, List.reverse_cons,
        List.append_assoc, List.singleton_append]
      rintro _ rfl
      exact absurd hc (by decide)

/-- No line holds a line break. -/
theorem not_isLineBreak_of_mem_lines {s line : List Char} (hline : line ∈ lines s) :
    ∀ c ∈ line, isLineBreak c = false := by
  suffices hafter : ∀ start : List Char, (∀ c ∈ start, isLineBreak c = false) →
      line ∈ linesAfter start s → ∀ c ∈ line, isLineBreak c = false by
    exact hafter [] (List.forall_mem_nil _) hline
  clear hline
  intro start hstart hline
  fun_induction linesAfter start s with
  | case1 => cases hline
  | case2 start hempty =>
      rw [List.mem_singleton.mp hline]
      simpa using hstart
  | case3 start rest ih =>
      rcases List.mem_cons.mp hline with rfl | hline
      · simpa using hstart
      · exact ih (List.forall_mem_nil _) hline
  | case4 start c rest _ hbreak ih =>
      rcases List.mem_cons.mp hline with rfl | hline
      · simpa using hstart
      · exact ih (List.forall_mem_nil _) hline
  | case5 start c rest _ hbreak ih =>
      exact ih (List.forall_mem_cons.mpr ⟨by simpa using hbreak, hstart⟩) hline

/-- A line feed that is put between two texts adds at most an empty line. -/
theorem exists_linesAfter_append_break (start s rest : List Char) :
    ∃ gap, (∀ line ∈ gap, line = []) ∧
      linesAfter start (s ++ '\n' :: rest) = linesAfter start s ++ (gap ++ lines rest) := by
  have hfeed : ∀ start : List Char, linesAfter start ('\n' :: rest) = start.reverse :: lines rest := by
    intro start
    rw [linesAfter, if_pos (by decide)]
    · rfl
    · exact fun _ h => absurd h (by decide)
  fun_induction linesAfter start s with
  | case1 start hempty =>
      rw [List.isEmpty_iff.mp hempty]
      exact ⟨[[]], by simp, hfeed []⟩
  | case2 start hempty => exact ⟨[], List.forall_mem_nil _, hfeed start⟩
  | case3 start s ih =>
      obtain ⟨gap, hgap, hlines⟩ := ih
      refine ⟨gap, hgap, ?_⟩
      rw [List.cons_append, List.cons_append, linesAfter, hlines]
      rfl
  | case4 start c s hpair hbreak ih =>
      by_cases hreturn : c = '\r' ∧ s = []
      · -- the two line breaks are one
        obtain ⟨rfl, rfl⟩ := hreturn
        exact ⟨[], List.forall_mem_nil _, rfl⟩
      · obtain ⟨gap, hgap, hlines⟩ := ih
        refine ⟨gap, hgap, ?_⟩
        rw [List.cons_append, linesAfter, if_pos hbreak, hlines]
        · rfl
        · rintro behind rfl hs
          cases s with
          | nil => exact hreturn ⟨rfl, rfl⟩
          | cons d s =>
              cases hs
              exact hpair s rfl rfl
  | case5 start c s hpair hbreak ih =>
      obtain ⟨gap, hgap, hlines⟩ := ih
      refine ⟨gap, hgap, ?_⟩
      rw [List.cons_append, linesAfter, if_neg hbreak, hlines]
      rintro behind rfl
      exact absurd (by decide) hbreak

section Joints

variable {gap part : List α} {parts : List (List α)} {i : Nat}

/-- Whether two neighbours among the parts, each two of which have the gap between them, meet at the
index of the whole text. -/
def IsJoint (gap : List α) (parts : List (List α)) (i : Nat) : Prop :=
  ∃ front back, front ≠ [] ∧ back ≠ [] ∧ parts = front ++ back ∧ i = (gap.intercalate front).length

theorem not_isJoint_singleton : ¬ IsJoint gap [part] i := by
  rintro ⟨front, back, hfront, hback, hparts, -⟩
  rcases List.append_eq_singleton_iff.mp hparts.symm with ⟨hnil, -⟩ | ⟨-, hnil⟩
  · exact hfront hnil
  · exact hback hnil

theorem intercalate_append_cons (a : List α) :
    gap.intercalate ((a ++ part) :: parts) = a ++ gap.intercalate (part :: parts) := by
  by_cases hne : parts = []
  · rw [hne, List.intercalate_singleton, List.intercalate_singleton]
  · rw [List.intercalate_cons_of_ne_nil hne, List.intercalate_cons_of_ne_nil hne]
    simp only [List.append_assoc]

/-- A part in front of others meets them at its end, and they meet each other further on. -/
theorem isJoint_cons_iff (hne : parts ≠ []) :
    IsJoint gap (part :: parts) i ↔
      i = part.length ∨ ∃ j, i = part.length + gap.length + j ∧ IsJoint gap parts j := by
  constructor
  · rintro ⟨front, back, hfront, hback, hparts, rfl⟩
    obtain ⟨first, front, rfl⟩ := List.exists_cons_of_ne_nil hfront
    obtain ⟨rfl, rfl⟩ := List.cons.inj hparts
    by_cases hnil : front = []
    · rw [hnil, List.intercalate_singleton]
      exact Or.inl rfl
    · refine Or.inr ⟨_, ?_, front, back, hnil, hback, rfl, rfl⟩
      rw [List.intercalate_cons_of_ne_nil hnil, List.length_append, List.length_append]
  · rintro (rfl | ⟨j, rfl, front, back, hfront, hback, rfl, rfl⟩)
    · exact ⟨[part], parts, List.cons_ne_nil _ _, hne, rfl, by rw [List.intercalate_singleton]⟩
    · refine ⟨part :: front, back, List.cons_ne_nil _ _, hback, rfl, ?_⟩
      rw [List.intercalate_cons_of_ne_nil hfront, List.length_append, List.length_append]

/-- What is put in front of the first part moves all joints. -/
theorem isJoint_append_cons_iff (a : List α) :
    IsJoint gap ((a ++ part) :: parts) i ↔
      ∃ j, i = a.length + j ∧ IsJoint gap (part :: parts) j := by
  constructor
  · rintro ⟨front, back, hfront, hback, hparts, rfl⟩
    obtain ⟨first, front, rfl⟩ := List.exists_cons_of_ne_nil hfront
    obtain ⟨rfl, rfl⟩ := List.cons.inj hparts
    refine ⟨_, ?_, part :: front, back, List.cons_ne_nil _ _, hback, rfl, rfl⟩
    rw [intercalate_append_cons, List.length_append]
  · rintro ⟨j, rfl, front, back, hfront, hback, hparts, rfl⟩
    obtain ⟨first, front, rfl⟩ := List.exists_cons_of_ne_nil hfront
    obtain ⟨rfl, rfl⟩ := List.cons.inj hparts
    refine ⟨(a ++ part) :: front, back, List.cons_ne_nil _ _, hback, rfl, ?_⟩
    rw [intercalate_append_cons, List.length_append]

end Joints

end RelSchema.Text
