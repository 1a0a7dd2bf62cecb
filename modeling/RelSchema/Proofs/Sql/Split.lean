import RelSchema.Proofs.Sql.Level
import RelSchema.Proofs.Text.Trim

/-!
# Division at separators

Text is only cut outside quotes and above no open parenthesis, so a text in parentheses is passed
over as a whole. A text without a cut of its own, put in front of another, joins the first part of
what follows.
-/

namespace RelSchema.Sql

/-- The parts of a text behind `start`, whose last part they continue. -/
def attach (start : List Char) : List (List Char) → List (List Char)
  | [] => [start]
  | segment :: segments => (start ++ segment) :: segments

theorem attach_attach (a b : List Char) (segments : List (List Char)) :
    attach a (attach b segments) = attach (a ++ b) segments := by
  cases segments with
  | nil => rfl
  | cons segment segments => simp [attach]

theorem attach_eq_singleton_iff {a b : List Char} {segments : List (List Char)}
    (hne : segments ≠ []) : attach a segments = [a ++ b] ↔ segments = [b] := by
  obtain ⟨segment, others, rfl⟩ := List.exists_cons_of_ne_nil hne
  simp [attach]

theorem segmentsFrom_cons (separator : Char) (quote? : Option Char) (depth : Nat) (c : Char)
    (rest : List Char) :
    segmentsFrom separator quote? depth (c :: rest)
      = if quote? == none && isCut separator depth c then
          [] :: segmentsFrom separator none depth rest
        else attach [c] (segmentsFrom separator (quoteAfter quotes quote? c)
          (if quote? == none then depthAfter depth c else depth) rest) := by
  rw [segmentsFrom]
  split
  · rfl
  · dsimp only
    cases segmentsFrom separator (quoteAfter quotes quote? c)
      (if quote? == none then depthAfter depth c else depth) rest <;> rfl

theorem segmentsFrom_cons_of_not_cut {separator : Char} {level : Level} {c : Char}
    (hcut : ¬ (level.quote? == none && isCut separator level.depth c) = true) (rest : List Char) :
    segmentsFrom separator level.quote? level.depth (c :: rest)
      = attach [c] (segmentsFrom separator (level.clampedNext c).quote?
          (level.clampedNext c).depth rest) := by
  rw [segmentsFrom_cons, if_neg hcut]
  rfl

theorem segmentsFrom_ne_nil (separator : Char) (quote? : Option Char) (depth : Nat)
    (text : List Char) : segmentsFrom separator quote? depth text ≠ [] := by
  cases text with
  | nil => exact List.cons_ne_nil _ _
  | cons c rest =>
      rw [segmentsFrom_cons]
      split
      · exact List.cons_ne_nil _ _
      · cases segmentsFrom separator (quoteAfter quotes quote? c)
          (if quote? == none then depthAfter depth c else depth) rest <;>
          exact List.cons_ne_nil _ _

theorem attach_nil_segmentsFrom (separator : Char) (quote? : Option Char) (depth : Nat)
    (text : List Char) :
    attach [] (segmentsFrom separator quote? depth text)
      = segmentsFrom separator quote? depth text := by
  cases hsegments : segmentsFrom separator quote? depth text with
  | nil => exact absurd hsegments (segmentsFrom_ne_nil _ _ _ _)
  | cons segment segments => rfl

theorem segmentsFrom_cons_of_next? {separator c : Char} {level next : Level} {rest : List Char}
    (hnext : level.next? c = some next)
    (hcut : (level.quote? == none && isCut separator level.depth c) = false) :
    segmentsFrom separator level.quote? level.depth (c :: rest)
      = attach [c] (segmentsFrom separator next.quote? next.depth rest) := by
  rw [segmentsFrom_cons_of_not_cut (by rw [hcut]; exact Bool.false_ne_true),
    Level.clampedNext_of_next? hnext]

/-- Inside parentheses nothing is cut. -/
theorem segmentsFrom_append_of_inside (separator : Char) {level last : Level} {a : List Char}
    (ha : level.after? a = some last) (b : List Char) :
    segmentsFrom separator level.quote? (level.depth + 1) (a ++ b)
      = attach a (segmentsFrom separator last.quote? (last.depth + 1) b) := by
  induction a generalizing level with
  | nil =>
      cases ha
      rw [List.nil_append, attach_nil_segmentsFrom]
  | cons c a ih =>
      obtain ⟨mid, hnext, hrest⟩ := Level.after?_cons_eq_some_iff.mp ha
      have hraised : Level.next? ⟨level.quote?, level.depth + 1⟩ c
          = some ⟨mid.quote?, mid.depth + 1⟩ := by
        have hsingle : level.after? [c] = some mid :=
          Level.after?_cons_eq_some_iff.mpr ⟨mid, hnext, rfl⟩
        have hstep := Level.after?_raised hsingle 1
        obtain ⟨next, hnext', hnil⟩ := Level.after?_cons_eq_some_iff.mp hstep
        cases hnil
        exact hnext'
      rw [List.cons_append, segmentsFrom_cons_of_next? hraised (by simp [isCut]), ih hrest,
        attach_attach]
      rfl

/-- Behind a parenthesis that stays open nothing is cut. -/
theorem segments_opening_append (separator : Char) {last : Level} {a : List Char}
    (ha : Level.after? {} a = some last) (b : List Char) :
    segments separator ('(' :: (a ++ b))
      = attach ('(' :: a) (segmentsFrom separator last.quote? (last.depth + 1) b) := by
  have hopen : Level.next? {} '(' = some ⟨none, 1⟩ := rfl
  have hstart := @segmentsFrom_cons_of_next? separator '(' {} ⟨none, 1⟩ (a ++ b) hopen
    (by simp [isCut])
  have hinside := @segmentsFrom_append_of_inside separator {} last a ha b
  rw [Nat.zero_add] at hinside
  rw [segments, hstart, hinside, attach_attach]
  rfl

/-- Whether the text has no cut at the separator outside quotes and parentheses. -/
def IsWhole (separator : Char) (text : List Char) : Prop :=
  segments separator text = [text]

instance (separator : Char) (text : List Char) : Decidable (IsWhole separator text) :=
  inferInstanceAs (Decidable (_ = _))

theorem not_cut_of_whole {separator : Char} {level : Level} {c : Char} {rest : List Char}
    (h : segmentsFrom separator level.quote? level.depth (c :: rest) = [c :: rest]) :
    ¬ (level.quote? == none && isCut separator level.depth c) = true := by
  intro hcut
  rw [segmentsFrom_cons, if_pos hcut] at h
  cases h

/-- A text without a cut of its own joins what follows. -/
theorem segmentsFrom_append_of_whole {separator : Char} {level : Level} {a : List Char}
    (hwhole : segmentsFrom separator level.quote? level.depth a = [a]) (b : List Char) :
    segmentsFrom separator level.quote? level.depth (a ++ b)
      = attach a (segmentsFrom separator (level.clampedAfter a).quote?
          (level.clampedAfter a).depth b) := by
  induction a generalizing level with
  | nil => exact (attach_nil_segmentsFrom ..).symm
  | cons c a ih =>
      have hcut := not_cut_of_whole hwhole
      rw [segmentsFrom_cons_of_not_cut hcut] at hwhole
      have hrest := (attach_eq_singleton_iff (segmentsFrom_ne_nil _ _ _ _)).mp hwhole
      rw [List.cons_append, segmentsFrom_cons_of_not_cut hcut, ih hrest, attach_attach]
      rfl

/-- The front of a text without a cut has none. -/
theorem whole_of_append {separator : Char} {level : Level} {a b : List Char}
    (h : segmentsFrom separator level.quote? level.depth (a ++ b) = [a ++ b]) :
    segmentsFrom separator level.quote? level.depth a = [a] := by
  induction a generalizing level with
  | nil => rfl
  | cons c a ih =>
      have hcut := not_cut_of_whole h
      rw [List.cons_append, segmentsFrom_cons_of_not_cut hcut] at h
      have hrest := (attach_eq_singleton_iff (segmentsFrom_ne_nil _ _ _ _)).mp h
      rw [segmentsFrom_cons_of_not_cut hcut, ih hrest]
      rfl

theorem segments_append_of_whole {separator : Char} {a : List Char} (ha : IsWhole separator a)
    (hbalanced : Balanced a) (b : List Char) :
    segments separator (a ++ b) = attach a (segments separator b) := by
  have happend := @segmentsFrom_append_of_whole separator {} a ha b
  rwa [hbalanced.clampedAfter_eq] at happend

namespace IsWhole

theorem nil (separator : Char) : IsWhole separator [] := rfl

theorem append {separator : Char} {a b : List Char} (ha : IsWhole separator a)
    (hbalanced : Balanced a) (hb : IsWhole separator b) : IsWhole separator (a ++ b) := by
  rw [IsWhole, segments_append_of_whole ha hbalanced]
  exact congrArg (attach a) hb

theorem of_append_left {separator : Char} {a b : List Char} (h : IsWhole separator (a ++ b)) :
    IsWhole separator a :=
  @whole_of_append separator {} a b h

theorem of_append_right {separator : Char} {a b : List Char} (h : IsWhole separator (a ++ b))
    (ha : Level.clampedAfter {} a = {}) : IsWhole separator b := by
  have happend := @segmentsFrom_append_of_whole separator {} a h.of_append_left b
  rw [ha] at happend
  exact (attach_eq_singleton_iff (segmentsFrom_ne_nil _ _ _ _)).mp (happend.symm.trans h)

theorem parenthesized (separator : Char) {text : List Char} (h : Balanced text) :
    IsWhole separator ('(' :: text ++ [')']) := by
  rw [IsWhole, List.cons_append, segments_opening_append separator h, segmentsFrom_cons]
  simp [isCut, segmentsFrom, attach]

end IsWhole

theorem segments_append_separator {separator : Char} (hparen : separator ≠ '(')
    (hclose : separator ≠ ')') (hquote : isQuote separator = false) {a : List Char}
    (ha : IsWhole separator a) (hbalanced : Balanced a) (rest : List Char) :
    segments separator (a ++ separator :: rest) = a :: segments separator rest := by
  rw [segments_append_of_whole ha hbalanced, segments, segmentsFrom_cons]
  simp [isCut, hparen, hclose, hquote, attach, segments]

end RelSchema.Sql
