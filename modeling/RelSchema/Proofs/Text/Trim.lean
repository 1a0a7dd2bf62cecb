import Mathlib.Data.List.DropRight
import RelSchema.Text.Trim

/-!
# Trimming

A trimmed text is what stands between the blanks at its two ends, and a text that neither starts
nor ends in a blank is trimmed.
-/

namespace RelSchema.Text

theorem dropEndWhile_eq_rdropWhile {α : Type} (p : α → Bool) (s : List α) :
    dropEndWhile p s = s.rdropWhile p := rfl

@[simp]
theorem dropEndWhile_nil {α : Type} (p : α → Bool) : dropEndWhile p [] = [] := rfl

/-- Dropping from the end goes past the first element only if everything behind it is dropped. -/
theorem dropEndWhile_cons {α : Type} (p : α → Bool) (a : α) (s : List α) :
    dropEndWhile p (a :: s)
      = if (dropEndWhile p s).isEmpty then (if p a then [] else [a]) else a :: dropEndWhile p s := by
  rw [dropEndWhile, List.reverse_cons, List.dropWhile_append, dropEndWhile, List.isEmpty_reverse]
  by_cases hnil : (s.reverse.dropWhile p).isEmpty
  · by_cases ha : p a <;> simp [hnil, ha]
  · simp [hnil]

theorem dropEndWhile_eq_self {α : Type} {p : α → Bool} {s : List α}
    (hlast : ∀ c ∈ s.getLast?, p c = false) : dropEndWhile p s = s := by
  rw [dropEndWhile_eq_rdropWhile, List.rdropWhile_eq_self_iff]
  intro hne
  rw [hlast _ (List.getLast?_eq_some_getLast hne)]
  exact Bool.false_ne_true

theorem dropEndWhile_append_of_all {α : Type} {p : α → Bool} {s gap : List α}
    (hgap : ∀ c ∈ gap, p c) : dropEndWhile p (s ++ gap) = dropEndWhile p s := by
  induction gap using List.reverseRecOn with
  | nil => rw [List.append_nil]
  | append_singleton gap c ih =>
      rw [← List.append_assoc, dropEndWhile_eq_rdropWhile,
        List.rdropWhile_concat_pos _ _ _ (hgap c (by simp))]
      exact ih fun d hd => hgap d (by simp [hd])

theorem exists_eq_dropEndWhile_append {α : Type} (p : α → Bool) (s : List α) :
    ∃ gap, s = dropEndWhile p s ++ gap ∧ ∀ c ∈ gap, p c := by
  refine ⟨s.rtakeWhile p, List.rdropWhile_append_rtakeWhile.symm, ?_⟩
  intro c hc
  exact List.mem_rtakeWhile_imp hc

theorem dropEndWhile_subset {α : Type} (p : α → Bool) (s : List α) : dropEndWhile p s ⊆ s := by
  rw [dropEndWhile_eq_rdropWhile]
  exact (List.rdropWhile_prefix p s).subset

theorem getLast?_dropEndWhile {α : Type} {p : α → Bool} {s : List α} {c : α}
    (hc : c ∈ (dropEndWhile p s).getLast?) : p c = false := by
  rw [dropEndWhile_eq_rdropWhile] at hc
  obtain ⟨hne, rfl⟩ := List.mem_getLast?_eq_getLast hc
  exact Bool.eq_false_iff.mpr (List.rdropWhile_last_not p s hne)

/-- Nothing is dropped in front of an element that fails the test. -/
theorem dropEndWhile_append_of_last {α : Type} {p : α → Bool} {a s : List α}
    (hlast : ∀ c ∈ a.getLast?, p c = false) : dropEndWhile p (a ++ s) = a ++ dropEndWhile p s := by
  obtain ⟨gap, hs, hgap⟩ := exists_eq_dropEndWhile_append p s
  calc dropEndWhile p (a ++ s)
      = dropEndWhile p (a ++ dropEndWhile p s ++ gap) := by rw [List.append_assoc, ← hs]
    _ = dropEndWhile p (a ++ dropEndWhile p s) := dropEndWhile_append_of_all hgap
    _ = a ++ dropEndWhile p s := by
      apply dropEndWhile_eq_self
      intro c hc
      rw [List.getLast?_append] at hc
      cases hkept : (dropEndWhile p s).getLast? with
      | none =>
          rw [hkept] at hc
          exact hlast c hc
      | some d =>
          rw [hkept] at hc
          cases hc
          exact getLast?_dropEndWhile hkept

theorem trimLeft_append_of_all {gap s : List Char} (hgap : ∀ c ∈ gap, isBlank c) :
    trimLeft (gap ++ s) = trimLeft s := by
  induction gap with
  | nil => rfl
  | cons c gap ih =>
      rw [List.cons_append, trimLeft, List.dropWhile_cons_of_pos (hgap c List.mem_cons_self)]
      exact ih fun d hd => hgap d (List.mem_cons_of_mem c hd)

theorem trimLeft_eq_self {s : List Char} (hfirst : ∀ c ∈ s.head?, isBlank c = false) :
    trimLeft s = s := by
  cases s with
  | nil => rfl
  | cons c s =>
      rw [trimLeft, List.dropWhile_cons_of_neg]
      rw [hfirst c rfl]
      exact Bool.false_ne_true

theorem trim_eq_self {s : List Char} (hfirst : ∀ c ∈ s.head?, isBlank c = false)
    (hlast : ∀ c ∈ s.getLast?, isBlank c = false) : trim s = s := by
  rw [trim, trimLeft_eq_self hfirst, trimRight, dropEndWhile_eq_self hlast]

/-- Blanks around a text are trimmed off. -/
theorem trim_append_append {before s after : List Char} (hbefore : ∀ c ∈ before, isBlank c)
    (hafter : ∀ c ∈ after, isBlank c) (hfirst : ∀ c ∈ s.head?, isBlank c = false)
    (hlast : ∀ c ∈ s.getLast?, isBlank c = false) : trim (before ++ s ++ after) = s := by
  cases s with
  | nil =>
      have hall : ∀ c ∈ before ++ after, isBlank c := by
        intro c hc
        rcases List.mem_append.mp hc with hc | hc
        · exact hbefore c hc
        · exact hafter c hc
      have hnil : trimLeft (before ++ after) = [] := by
        simpa [trimLeft] using trimLeft_append_of_all (s := []) hall
      simp [trim, hnil, trimRight]
  | cons c s =>
      have hleft : trimLeft (before ++ (c :: s) ++ after) = (c :: s) ++ after := by
        rw [List.append_assoc, trimLeft_append_of_all hbefore]
        exact trimLeft_eq_self (by simpa using hfirst)
      rw [trim, hleft, trimRight, dropEndWhile_append_of_all hafter, dropEndWhile_eq_self hlast]

theorem exists_eq_append_trim (s : List Char) :
    ∃ before after, s = before ++ trim s ++ after ∧ (∀ c ∈ before, isBlank c) ∧
      ∀ c ∈ after, isBlank c := by
  obtain ⟨after, hafter, hblank⟩ := exists_eq_dropEndWhile_append isBlank (trimLeft s)
  refine ⟨s.takeWhile isBlank, after, ?_, fun c hc => List.mem_takeWhile_imp hc, hblank⟩
  calc s = s.takeWhile isBlank ++ trimLeft s := List.takeWhile_append_dropWhile.symm
    _ = s.takeWhile isBlank ++ (trim s ++ after) := congrArg (_ ++ ·) hafter
    _ = s.takeWhile isBlank ++ trim s ++ after := (List.append_assoc ..).symm

theorem getLast?_trim {s : List Char} {c : Char} (hc : c ∈ (trim s).getLast?) :
    isBlank c = false :=
  getLast?_dropEndWhile hc

theorem head?_trim {s : List Char} {c : Char} (hc : c ∈ (trim s).head?) : isBlank c = false := by
  obtain ⟨gap, hleft, -⟩ := exists_eq_dropEndWhile_append isBlank (trimLeft s)
  have hhead : c ∈ (trimLeft s).head? := by
    cases htrim : trim s with
    | nil =>
        rw [htrim] at hc
        cases hc
    | cons d rest =>
        rw [htrim] at hc
        rw [show trimLeft s = trim s ++ gap from hleft, htrim]
        exact hc
  have hnot := List.head?_dropWhile_not isBlank s
  rw [show s.dropWhile isBlank = trimLeft s from rfl, hhead] at hnot
  simpa using hnot

/-- Blanks around a text are trimmed off together with its own. -/
theorem trim_of_blank {before s after : List Char} (hbefore : ∀ c ∈ before, isBlank c)
    (hafter : ∀ c ∈ after, isBlank c) : trim (before ++ s ++ after) = trim s := by
  obtain ⟨front, back, hs, hfront, hback⟩ := exists_eq_append_trim s
  have hsplit : before ++ s ++ after = (before ++ front) ++ trim s ++ (back ++ after) := by
    conv_lhs => rw [hs]
    simp only [List.append_assoc]
  rw [hsplit]
  refine trim_append_append (fun c hc => ?_) (fun c hc => ?_) (fun c hc => head?_trim hc)
    fun c hc => getLast?_trim hc
  · exact (List.mem_append.mp hc).elim (hbefore c) (hfront c)
  · exact (List.mem_append.mp hc).elim (hback c) (hafter c)

theorem trim_trim (s : List Char) : trim (trim s) = trim s :=
  trim_eq_self (fun _ hc => head?_trim hc) fun _ hc => getLast?_trim hc

/-- The blanks at the two ends can be dropped in either order. -/
theorem trimLeft_trimRight (s : List Char) : trimLeft (trimRight s) = trim s := by
  have hlast : ∀ c ∈ (trimLeft (trimRight s)).getLast?, isBlank c = false := by
    intro c hc
    apply getLast?_dropEndWhile (s := s)
    change c ∈ (trimRight s).getLast?
    have hsplit : (trimRight s).takeWhile isBlank ++ trimLeft (trimRight s) = trimRight s :=
      List.takeWhile_append_dropWhile
    rw [← hsplit, List.getLast?_append, Option.mem_def.mp hc]
    rfl
  obtain ⟨gap, hs, hgap⟩ := exists_eq_dropEndWhile_append isBlank s
  calc trimLeft (trimRight s) = trim (trimRight s) := (dropEndWhile_eq_self hlast).symm
    _ = trim ([] ++ trimRight s ++ gap) := (trim_of_blank (List.forall_mem_nil _) hgap).symm
    _ = trim s := by rw [List.nil_append, trimRight, ← hs]

theorem ne_of_isBlank {c d : Char} (hc : isBlank c = true) (hd : isBlank d = false) : c ≠ d := by
  rintro rfl
  rw [hc] at hd
  cases hd

theorem trim_ne_nil {s : List Char} {c : Char} (hc : c ∈ s) (hblank : isBlank c = false) :
    trim s ≠ [] := by
  intro hnil
  obtain ⟨before, after, hs, hbefore, hafter⟩ := exists_eq_append_trim s
  rw [hnil, List.append_nil] at hs
  rw [hs] at hc
  have hall : isBlank c = true := by
    rcases List.mem_append.mp hc with h | h
    · exact hbefore c h
    · exact hafter c h
  rw [hblank] at hall
  cases hall

/-- Trimming only shortens a text that starts in something other than a blank. -/
theorem exists_eq_trim_append {s : List Char} (hfirst : ∀ c ∈ s.head?, isBlank c = false) :
    ∃ gap, s = trim s ++ gap ∧ ∀ c ∈ gap, isBlank c := by
  rw [trim, trimLeft_eq_self hfirst]
  exact exists_eq_dropEndWhile_append isBlank s

theorem trimLeft_subset (s : List Char) : trimLeft s ⊆ s :=
  (List.dropWhile_suffix isBlank).subset

theorem trim_subset (s : List Char) : trim s ⊆ s := by
  obtain ⟨before, after, hs, -⟩ := exists_eq_append_trim s
  intro c hc
  rw [hs]
  exact List.mem_append_left _ (List.mem_append_right _ hc)

end RelSchema.Text
