import Mathlib.Data.List.Induction
import Mathlib.Tactic.Common
import RelSchema.Keyed

/-!
# Entries under keys

Whatever is found in a keyed list was put into it.
-/

namespace RelSchema.Keyed

variable {α : Type}

theorem mem_of_mem_set {key : String} {value : α} {keyed : Keyed α} {entry : String × α}
    (h : entry ∈ keyed.set key value) : entry = (key, value) ∨ entry ∈ keyed := by
  induction keyed with
  | nil => exact Or.inl (List.mem_singleton.mp h)
  | cons first rest ih =>
      unfold set at h
      by_cases hkey : (first.1 == key) = true
      · rw [if_pos hkey, beq_iff_eq.mp hkey] at h
        rcases List.mem_cons.mp h with rfl | hrest
        · exact Or.inl rfl
        · exact Or.inr (List.mem_cons_of_mem first hrest)
      · rw [if_neg hkey] at h
        rcases List.mem_cons.mp h with rfl | hrest
        · exact Or.inr List.mem_cons_self
        · exact (ih hrest).imp_right (List.mem_cons_of_mem first)

theorem mem_of_mem_ofList {entries : List (String × α)} {entry : String × α}
    (h : entry ∈ ofList entries) : entry ∈ entries := by
  suffices hfold : ∀ keyed : Keyed α,
      entry ∈ entries.foldl (fun keyed entry => keyed.set entry.1 entry.2) keyed →
        entry ∈ entries ∨ entry ∈ keyed by
    exact (hfold [] h).resolve_right List.not_mem_nil
  clear h
  intro keyed h
  induction entries generalizing keyed with
  | nil => exact Or.inr h
  | cons first rest ih =>
      rcases ih _ h with hrest | hset
      · exact Or.inl (List.mem_cons_of_mem first hrest)
      · rcases mem_of_mem_set hset with rfl | hkeyed
        · exact Or.inl List.mem_cons_self
        · exact Or.inr hkeyed

theorem get?_cons (entry : String × α) (rest : Keyed α) (key : String) :
    get? (entry :: rest) key = if key == entry.1 then some entry.2 else rest.get? key := by
  rw [get?, List.lookup_cons]
  cases key == entry.1 with
  | true => rfl
  | false => rfl

/-- Of the entries made of elements, the first element with the key counts. -/
theorem get?_map {β : Type} (key : α → String) (value : α → β) (elements : List α) (name : String) :
    get? (elements.map fun a => (key a, value a)) name
      = (elements.find? (key · == name)).map value := by
  induction elements with
  | nil => rfl
  | cons a rest ih =>
      rw [List.map_cons, get?_cons, ih, List.find?_cons]
      by_cases hname : key a = name
      · rw [if_pos (beq_iff_eq.mpr hname.symm), beq_iff_eq.mpr hname]
        rfl
      · rw [if_neg (fun h => hname (beq_iff_eq.mp h).symm), beq_eq_false_iff_ne.mpr hname]

theorem get?_set (keyed : Keyed α) (key other : String) (value : α) :
    (keyed.set key value).get? other = if other == key then some value else keyed.get? other := by
  induction keyed with
  | nil => exact get?_cons (key, value) [] other
  | cons first rest ih =>
      unfold set
      by_cases hkey : (first.1 == key) = true
      · rw [if_pos hkey, get?_cons, get?_cons, beq_iff_eq.mp hkey]
        split_ifs <;> rfl
      · rw [if_neg hkey, get?_cons, get?_cons, ih]
        by_cases hfirst : (other == first.1) = true
        · have hother : ¬ (other == key) = true := by rwa [beq_iff_eq.mp hfirst]
          rw [if_pos hfirst, if_pos hfirst, if_neg hother]
        · rw [if_neg hfirst, if_neg hfirst]

theorem ofList_append_singleton (entries : List (String × α)) (entry : String × α) :
    ofList (entries ++ [entry]) = (ofList entries).set entry.1 entry.2 :=
  List.foldl_append

/-- Of several entries under a key the last one counts. -/
theorem get?_ofList (entries : List (String × α)) (key : String) :
    (ofList entries).get? key = get? entries.reverse key := by
  induction entries using List.reverseRecOn with
  | nil => rfl
  | append_singleton entries entry ih =>
      rw [ofList_append_singleton, get?_set, ih, List.reverse_append, List.reverse_singleton, List.singleton_append,
        get?_cons]

theorem get?_filter_ne (keyed : Keyed α) {key other : String} (h : key ≠ other) :
    get? (keyed.filter (·.1 != other)) key = keyed.get? key := by
  induction keyed with
  | nil => rfl
  | cons first rest ih =>
      by_cases hfirst : first.1 = other
      · have hne : ¬ (key == first.1) = true := by simpa [hfirst] using h
        rw [List.filter_cons_of_neg (by simpa using hfirst), ih, get?_cons, if_neg hne]
      · rw [List.filter_cons_of_pos (by simpa using hfirst), get?_cons, get?_cons, ih]

theorem get?_append (keyed other : Keyed α) (key : String) :
    get? (keyed ++ other) key = (keyed.get? key).or (other.get? key) :=
  List.lookup_append

theorem isSome_get?_iff {keyed : Keyed α} {key : String} :
    (keyed.get? key).isSome = true ↔ key ∈ keyed.keys := by
  rw [get?, List.lookup_isSome_iff, keys, List.mem_map]
  simp only [beq_iff_eq, @eq_comm _ key]

theorem get?_eq_none {keyed : Keyed α} {key : String} (h : key ∉ keyed.keys) :
    keyed.get? key = none := by
  rwa [← isSome_get?_iff, Bool.not_eq_true, Option.isSome_eq_false_iff,
    Option.isNone_iff_eq_none] at h

theorem set_of_not_mem {keyed : Keyed α} {key : String} (h : key ∉ keyed.keys) (value : α) :
    keyed.set key value = keyed ++ [(key, value)] := by
  induction keyed with
  | nil => rfl
  | cons first rest ih =>
      obtain ⟨hfirst, hrest⟩ := not_or.mp (List.mem_cons.not.mp h)
      unfold set
      rw [if_neg (fun heq => hfirst (beq_iff_eq.mp heq).symm), ih hrest]
      rfl

theorem ofList_eq_self {entries : List (String × α)} (h : (entries.map (·.1)).Nodup) :
    ofList entries = entries := by
  induction entries using List.reverseRecOn with
  | nil => rfl
  | append_singleton entries entry ih =>
      rw [List.map_append, List.nodup_append] at h
      rw [ofList_append_singleton, ih h.1, set_of_not_mem fun hmem => h.2.2 _ hmem _ List.mem_cons_self rfl]

/-- Entries made of their keys alone do not depend on their order. -/
theorem get?_ofList_map (value : String → α) {names : List String} {name : String}
    (h : name ∈ names) : (ofList (names.map fun name => (name, value name))).get? name
      = some (value name) := by
  rw [get?_ofList, ← List.map_reverse, get?_map (fun name => name)]
  cases hfound : names.reverse.find? (· == name) with
  | none =>
      have hother := List.find?_eq_none.mp hfound name (List.mem_reverse.mpr h)
      exact absurd (beq_self_eq_true name) hother
  | some found =>
      have hname := List.find?_some (p := (· == name)) hfound
      rw [Option.map_some, beq_iff_eq.mp hname]

theorem keys_set (keyed : Keyed α) (key : String) (value : α) :
    (keyed.set key value).keys
      = if key ∈ keyed.keys then keyed.keys else keyed.keys ++ [key] := by
  by_cases hmem : key ∈ keyed.keys
  · rw [if_pos hmem]
    induction keyed with
    | nil => cases hmem
    | cons first rest ih =>
        unfold set
        by_cases hkey : (first.1 == key) = true
        · rw [if_pos hkey]
          rfl
        · have hother : key ∈ keys rest :=
            (List.mem_cons.mp hmem).resolve_left fun heq => hkey (beq_iff_eq.mpr heq.symm)
          rw [if_neg hkey]
          exact congrArg (first.1 :: ·) (ih hother)
  · rw [if_neg hmem, set_of_not_mem hmem]
    exact List.map_append

theorem nodup_keys_ofList (entries : List (String × α)) : (ofList entries).keys.Nodup := by
  induction entries using List.reverseRecOn with
  | nil => exact List.nodup_nil
  | append_singleton entries entry ih =>
      rw [ofList_append_singleton, keys_set]
      split_ifs with hmem
      · exact ih
      · refine List.nodup_append.mpr ⟨ih, List.pairwise_singleton _ _, ?_⟩
        rintro other hother _ hentry rfl
        exact hmem (List.mem_singleton.mp hentry ▸ hother)

theorem get?_eq_some_of_mem {keyed : Keyed α} (h : keyed.keys.Nodup) {key : String} {value : α}
    (hmem : (key, value) ∈ keyed) : keyed.get? key = some value := by
  induction keyed with
  | nil => cases hmem
  | cons first rest ih =>
      obtain ⟨hfirst, hrest⟩ := List.nodup_cons.mp h
      rw [get?_cons]
      rcases List.mem_cons.mp hmem with rfl | hmem
      · exact if_pos (beq_self_eq_true key)
      · have hne : ¬ (key == first.1) = true := fun heq =>
          hfirst (List.mem_map.mpr ⟨(key, value), hmem, beq_iff_eq.mp heq⟩)
        rw [if_neg hne, ih hrest hmem]

theorem mem_of_lookup {κ : Type} [BEq κ] [LawfulBEq κ] {entries : List (κ × α)} {key : κ}
    {value : α} (h : entries.lookup key = some value) : (key, value) ∈ entries := by
  obtain ⟨before, after, rfl, -⟩ := List.lookup_eq_some_iff.mp h
  exact List.mem_append_right before List.mem_cons_self

theorem mem_of_get? {keyed : Keyed α} {key : String} {value : α}
    (h : keyed.get? key = some value) : (key, value) ∈ keyed :=
  mem_of_lookup h

end RelSchema.Keyed
