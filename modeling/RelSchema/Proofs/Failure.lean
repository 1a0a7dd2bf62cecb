import Mathlib.Tactic.Common
import RelSchema.Failure

/-!
# Attempts on lists

An attempt on each element of a list gives a list exactly if every single attempt gives an element.
-/

namespace RelSchema

variable {α β γ ε : Type}

theorem bind_eq_ok_iff {attempt : Except ε α} {next : α → Except ε β} {b : β} :
    attempt >>= next = .ok b ↔ ∃ a, attempt = .ok a ∧ next a = .ok b := by
  cases attempt with
  | error failure =>
      constructor
      · intro h
        cases h
      · rintro ⟨a, h, -⟩
        cases h
  | ok a =>
      constructor
      · intro h
        exact ⟨a, rfl, h⟩
      · rintro ⟨a', h, hnext⟩
        cases h
        exact hnext

theorem mapM_eq_ok_iff {f : α → Except ε β} {as : List α} {bs : List β} :
    as.mapM f = .ok bs ↔ as.map f = bs.map .ok := by
  induction as generalizing bs with
  | nil =>
      rw [List.mapM_nil, List.map_nil, eq_comm (a := []), List.map_eq_nil_iff]
      constructor
      · intro h
        cases h
        rfl
      · rintro rfl
        rfl
  | cons a as ih =>
      rw [List.mapM_cons, bind_eq_ok_iff, List.map_cons]
      constructor
      · rintro ⟨first, hfirst, hbehind⟩
        obtain ⟨rest, hrest, h⟩ := bind_eq_ok_iff.mp hbehind
        cases h
        rw [hfirst, ih.mp hrest, List.map_cons]
      · intro h
        cases bs with
        | nil => cases h
        | cons first rest =>
            rw [List.map_cons, List.cons.injEq] at h
            exact ⟨first, h.1, bind_eq_ok_iff.mpr ⟨rest, ih.mpr h.2, rfl⟩⟩

/-- There is a list exactly if no single attempt fails. -/
theorem exists_mapM_eq_ok_iff {f : α → Except ε β} {as : List α} :
    (∃ bs, as.mapM f = .ok bs) ↔ ∀ a ∈ as, ∃ b, f a = .ok b := by
  induction as with
  | nil => exact ⟨fun _ => List.forall_mem_nil _, fun _ => ⟨[], rfl⟩⟩
  | cons a as ih =>
      rw [List.forall_mem_cons, ← ih, List.mapM_cons]
      constructor
      · rintro ⟨bs, h⟩
        obtain ⟨b, hb, hbehind⟩ := bind_eq_ok_iff.mp h
        obtain ⟨rest, hrest, -⟩ := bind_eq_ok_iff.mp hbehind
        exact ⟨⟨b, hb⟩, rest, hrest⟩
      · rintro ⟨⟨b, hb⟩, rest, hrest⟩
        exact ⟨b :: rest, bind_eq_ok_iff.mpr ⟨b, hb, bind_eq_ok_iff.mpr ⟨rest, hrest, rfl⟩⟩⟩

/-- The first failure is the same if what is found is changed afterwards. -/
theorem map_mapM_id (f : α → β) (attempts : List (Except ε α)) :
    (attempts.mapM id).map (List.map f) = (attempts.map (Except.map f)).mapM id := by
  induction attempts with
  | nil => rfl
  | cons attempt attempts ih =>
      rw [List.map_cons, List.mapM_cons, List.mapM_cons, ← ih]
      cases attempt with
      | error failure => rfl
      | ok first =>
          cases attempts.mapM id with
          | error failure => rfl
          | ok rest => rfl

theorem exists_of_mem_mapM {f : α → Except ε β} {as : List α} {bs : List β}
    (h : as.mapM f = .ok bs) {b : β} (hb : b ∈ bs) : ∃ a ∈ as, f a = .ok b := by
  have hmem : Except.ok b ∈ as.map f := by
    rw [mapM_eq_ok_iff.mp h]
    exact List.mem_map_of_mem hb
  exact List.mem_map.mp hmem

theorem exists_mem_of_mapM {f : α → Except ε β} {as : List α} {bs : List β}
    (h : as.mapM f = .ok bs) {a : α} (ha : a ∈ as) : ∃ b ∈ bs, f a = .ok b := by
  have hmem : f a ∈ bs.map Except.ok := by
    rw [← mapM_eq_ok_iff.mp h]
    exact List.mem_map_of_mem ha
  obtain ⟨b, hb, heq⟩ := List.mem_map.mp hmem
  exact ⟨b, hb, heq.symm⟩

/-- The list fails with the failure of one of its elements. -/
theorem exists_of_mapM_eq_error {f : α → Except ε β} {as : List α} {failure : ε}
    (h : as.mapM f = .error failure) : ∃ a ∈ as, f a = .error failure := by
  induction as with
  | nil => cases h
  | cons a as ih =>
      rw [List.mapM_cons] at h
      cases ha : f a with
      | error other =>
          rw [ha] at h
          cases h
          exact ⟨a, List.mem_cons_self, ha⟩
      | ok b =>
          cases hrest : as.mapM f with
          | error other =>
              rw [ha, hrest] at h
              cases h
              obtain ⟨other, hmem, hfailure⟩ := ih hrest
              exact ⟨other, List.mem_cons_of_mem a hmem, hfailure⟩
          | ok bs =>
              rw [ha, hrest] at h
              cases h

/-- A map that only needs what was read for an element needs the element alone. -/
theorem map_eq_map_of_mapM {f : α → Except ε β} {g : β → γ} {k : α → γ}
    (hg : ∀ a b, f a = .ok b → g b = k a) {as : List α} {bs : List β} (h : as.mapM f = .ok bs) :
    bs.map g = as.map k := by
  induction as generalizing bs with
  | nil =>
      cases h
      rfl
  | cons a as ih =>
      rw [List.mapM_cons] at h
      obtain ⟨first, hfirst, hbehind⟩ := bind_eq_ok_iff.mp h
      obtain ⟨rest, hrest, hbs⟩ := bind_eq_ok_iff.mp hbehind
      cases hbs
      rw [List.map_cons, List.map_cons, hg a first hfirst, ih hrest]

theorem map_eq_of_mapM {f : α → Except ε β} {g : β → α} (hg : ∀ a b, f a = .ok b → g b = a)
    {as : List α} {bs : List β} (h : as.mapM f = .ok bs) : bs.map g = as :=
  (map_eq_map_of_mapM hg h).trans (List.map_id as)

end RelSchema
