import Mathlib.Data.List.Basic
import Mathlib.Tactic.Common
import RelSchema.Proofs.Keyed
import RelSchema.Text.Case

/-!
# Images of characters

A mapping of characters to another case gives each of them an image that is not empty, and none to
upper case leads to a small letter of the English alphabet. A text in upper case stays the same in
upper case. A text whose lower case is in small letters of the English alphabet is one of ASCII,
unless a `k` is among them.
-/

namespace RelSchema.Text

theorem isLower_eq_false {c : Char} (h : c.toNat < 97 ∨ 122 < c.toNat) : c.isLower = false := by
  by_contra hlower
  obtain ⟨hlow, hhigh⟩ := Bool.and_eq_true_iff.mp (Bool.not_eq_false _ ▸ hlower)
  have hlow : 97 ≤ c.toNat := UInt32.le_iff_toNat_le.mp (of_decide_eq_true hlow)
  have hhigh : c.toNat ≤ 122 := UInt32.le_iff_toNat_le.mp (of_decide_eq_true hhigh)
  omega

theorem isLower_of_isUpper {c : Char} (h : c.isUpper = true) : c.isLower = false := by
  have hhigh : c.toNat ≤ 90 := UInt32.le_iff_toNat_le.mp (of_decide_eq_true h).2
  exact isLower_eq_false (by omega)

theorem isLower_ofNat {n : Nat} (h : n < 97 ∨ 122 < n) : (Char.ofNat n).isLower = false := by
  by_cases hvalid : n.isValidChar
  · have hchar : Char.ofNat n = Char.ofNatAux n hvalid := dif_pos hvalid
    rw [hchar]
    exact isLower_eq_false h
  · have hchar : Char.ofNat n = '\x00' := dif_neg hvalid
    rw [hchar]
    decide

theorem of_forall_ascii (test : Char → Bool) (htest : ∀ code < 128, test (Char.ofNat code) = true)
    {c : Char} (hc : c.toNat < 128) : test c = true := by
  rw [← Char.ofNat_toNat c]
  exact htest c.toNat hc

theorem CaseRun.of_image? {run : CaseRun} {code n : Nat} (h : run.image? code = some n) :
    run.first ≤ code ∧ code ≤ run.last ∧ n = (code + run.shift).toNat := by
  unfold CaseRun.image? at h
  split_ifs at h with hrange
  simp only [Bool.and_eq_true, decide_eq_true_eq] at hrange
  exact ⟨hrange.1.1, hrange.1.2, (Option.some.inj h).symm⟩

/-- No mapping to upper case leads to a small letter. -/
theorem isLower_head_upperChar {c d : Char} (hd : d ∈ (upperChar c).head?) : d.isLower = false := by
  unfold upperChar at hd
  split_ifs at hd with hascii
  · obtain rfl : c.toUpper = d := by simpa using hd
    exact (Bool.not_eq_true' _).mp
      (of_forall_ascii (fun c => !c.toUpper.isLower) (by decide +kernel) hascii)
  · -- a run is a range with one shift, so its two ends tell whether it reaches the small letters
    have hexpansions : (upperExpansions.all fun expansion =>
        expansion.2.toList.head?.all (!·.isLower)) = true := by decide +kernel
    have hruns : (upperRuns.all fun run => Nat.blt run.last 128 ||
        Nat.blt 122 (run.first + run.shift).toNat ||
        Nat.blt (run.last + run.shift).toNat 97) = true := by decide +kernel
    unfold mapCase at hd
    cases hfound : upperExpansions.lookup c with
    | some image =>
        rw [hfound] at hd
        have himage := List.all_eq_true.mp hexpansions (c, image) (Keyed.mem_of_lookup hfound)
        have hhead : image.toList.head? = some d := hd
        rw [hhead] at himage
        simpa using himage
    | none =>
        rw [hfound] at hd
        cases himage : upperRuns.findSome? (·.image? c.toNat) with
        | none =>
            rw [himage] at hd
            obtain rfl : c = d := by simpa using hd
            exact isLower_eq_false (by omega)
        | some n =>
            rw [himage] at hd
            obtain rfl : Char.ofNat n = d := by simpa using hd
            obtain ⟨run, hrun, hn⟩ := List.exists_of_findSome?_eq_some himage
            obtain ⟨hfirst, hlast, rfl⟩ := CaseRun.of_image? hn
            have hrange := List.all_eq_true.mp hruns run hrun
            simp only [Bool.or_eq_true, Nat.blt_eq] at hrange
            exact isLower_ofNat (by omega)

theorem mapCase_ne_nil {expansions : List (Char × String)}
    (hexpansions : ∀ expansion ∈ expansions, expansion.2.toList ≠ []) (runs : List CaseRun)
    (c : Char) : mapCase runs expansions c ≠ [] := by
  unfold mapCase
  cases hfound : expansions.lookup c with
  | none => exact List.cons_ne_nil _ _
  | some image => exact hexpansions (c, image) (Keyed.mem_of_lookup hfound)

theorem upperChar_ne_nil (c : Char) : upperChar c ≠ [] := by
  unfold upperChar
  split_ifs
  · exact List.cons_ne_nil _ _
  · exact mapCase_ne_nil (by decide) _ c

theorem mem_upper {c : Char} (hc : upperChar c = [c]) {w : List Char} (hmem : c ∈ w) :
    c ∈ (upper (.ofList w)).toList := by
  rw [upper, String.toList_ofList, String.toList_ofList, List.mem_flatMap]
  exact ⟨c, hmem, by rw [hc]; exact List.mem_cons_self⟩

theorem lowerChar_ne_nil (c : Char) : lowerChar c ≠ [] := by
  unfold lowerChar
  split_ifs
  · exact List.cons_ne_nil _ _
  · exact mapCase_ne_nil (by decide) _ c

theorem lower_of_ascii {s : List Char} (hs : ∀ c ∈ s, c.toNat < 128) :
    lower (.ofList s) = .ofList (s.map Char.toLower) := by
  suffices hafter : ∀ before, lowerAfter before s = s.map Char.toLower by
    rw [lower, String.toList_ofList, hafter]
  induction s with
  | nil => exact fun _ => rfl
  | cons c s ih =>
      intro before
      obtain ⟨hc, hrest⟩ := List.forall_mem_cons.mp hs
      have hsigma : (c == 'Σ') = false := by
        rw [beq_eq_false_iff_ne]
        rintro rfl
        exact absurd hc (by decide)
      rw [lowerAfter, hsigma, lowerChar, if_pos hc, ih hrest]
      rfl

theorem lower_ne_empty {s : String} (h : s ≠ "") : lower s ≠ "" := by
  have hne : s.toList ≠ [] := by simpa using h
  obtain ⟨c, rest, hs⟩ := List.exists_cons_of_ne_nil hne
  have himage : (if c == 'Σ' then if nextIsCased [] && !nextIsCased rest then ['ς'] else ['σ']
      else lowerChar c) ≠ [] := by
    split_ifs
    · exact List.cons_ne_nil _ _
    · exact List.cons_ne_nil _ _
    · exact lowerChar_ne_nil c
  unfold lower
  rw [hs, lowerAfter]
  intro hempty
  rw [String.ofList_eq_empty_iff, List.append_eq_nil_iff] at hempty
  exact himage hempty.1

/-- Whether no code that the run leads to is one of another run. -/
def CaseRun.avoids (run other : CaseRun) : Bool :=
  Nat.blt other.last (run.first + run.shift).toNat ||
    Nat.blt (run.last + run.shift).toNat other.first ||
    (other.step == 2 && (run.step == 2 || run.first == run.last) &&
      decide (0 ≤ run.first + run.shift) &&
      ((run.first + run.shift).toNat + other.first) % 2 == 1)

theorem CaseRun.image?_of_avoids {run other : CaseRun} (h : run.avoids other = true) {code n : Nat}
    (hn : run.image? code = some n) : other.image? n = none := by
  simp only [CaseRun.avoids, Bool.and_eq_true, decide_eq_true_eq, Bool.or_eq_true, Nat.blt_eq,
    beq_iff_eq] at h
  unfold CaseRun.image? at hn ⊢
  split_ifs at hn with hcode
  cases hn
  simp only [Bool.and_eq_true, decide_eq_true_eq, beq_iff_eq] at hcode
  refine if_neg fun hother => ?_
  simp only [Bool.and_eq_true, decide_eq_true_eq, beq_iff_eq] at hother
  obtain (hbelow | habove) | ⟨⟨⟨hother_step, hstep⟩, hstart⟩, hodd⟩ := h
  · omega
  · omega
  · -- both move in steps of two, from codes of different parity
    rw [hother_step] at hother
    rcases hstep with hstep | hsingle
    · rw [hstep] at hcode
      omega
    · omega

/-- Whether no code that the run leads to has an upper case of its own. -/
def CaseRun.isSettled (run : CaseRun) : Bool :=
  upperRuns.all run.avoids &&
    upperExpansions.all fun expansion => run.avoids ⟨expansion.1.toNat, expansion.1.toNat, 1, 0⟩

/-- Ranges that hold all characters of the images of more than one character. -/
def expansionRuns : List CaseRun := [
  ⟨0x41, 0x59, 1, 0⟩, ⟨0x2bc, 0x342, 1, 0⟩, ⟨0x386, 0x38f, 1, 0⟩, ⟨0x391, 0x3a9, 1, 0⟩,
  ⟨0x535, 0x552, 1, 0⟩, ⟨0x1f08, 0x1f0f, 1, 0⟩, ⟨0x1f28, 0x1f2f, 1, 0⟩, ⟨0x1f68, 0x1f6f, 1, 0⟩,
  ⟨0x1fba, 0x1fba, 1, 0⟩, ⟨0x1fca, 0x1fca, 1, 0⟩, ⟨0x1ffa, 0x1ffa, 1, 0⟩]

theorem isSettled_of_mem {run : CaseRun} (hrun : run ∈ upperRuns ++ expansionRuns) :
    run.isSettled = true := by
  have hall : (upperRuns ++ expansionRuns).all CaseRun.isSettled = true := by decide +kernel
  exact List.all_eq_true.mp hall run hrun

theorem toNat_ofNat {n : Nat} (h : 128 ≤ (Char.ofNat n).toNat) : (Char.ofNat n).toNat = n := by
  by_cases hvalid : n.isValidChar
  · have hchar : Char.ofNat n = Char.ofNatAux n hvalid := dif_pos hvalid
    rw [hchar]
    rfl
  · have hchar : Char.ofNat n = '\x00' := dif_neg hvalid
    rw [hchar] at h
    exact absurd h (by decide)

theorem upperChar_ofNat {run : CaseRun} (hrun : run.isSettled = true) {code n : Nat}
    (hn : run.image? code = some n) (hlower : (Char.ofNat n).isLower = false) :
    upperChar (Char.ofNat n) = [Char.ofNat n] := by
  obtain ⟨hruns, hexpansions⟩ := Bool.and_eq_true_iff.mp hrun
  by_cases hascii : (Char.ofNat n).toNat < 128
  · have htest := of_forall_ascii (fun c => c.isLower || c.toUpper == c) (by decide +kernel) hascii
    rw [hlower, Bool.false_or, beq_iff_eq] at htest
    rw [upperChar, if_pos hascii, htest]
  · have hcode := toNat_ofNat (Nat.le_of_not_lt hascii)
    have hlookup : upperExpansions.lookup (Char.ofNat n) = none := by
      by_contra hsome
      obtain ⟨image, himage⟩ := Option.ne_none_iff_exists'.mp hsome
      have havoids := List.all_eq_true.mp hexpansions _ (Keyed.mem_of_lookup himage)
      have hnone := CaseRun.image?_of_avoids havoids hn
      simp [CaseRun.image?, hcode] at hnone
    have hfind : upperRuns.findSome? (·.image? n) = none :=
      List.findSome?_eq_none_iff.mpr fun other hother =>
        CaseRun.image?_of_avoids (List.all_eq_true.mp hruns other hother) hn
    rw [upperChar, if_neg hascii, mapCase, hlookup, hcode, hfind]
    rfl

theorem upperChar_of_mem_upperExpansions {c : Char} {image : String}
    (himage : (c, image) ∈ upperExpansions) {d : Char} (hd : d ∈ image.toList) :
    upperChar d = [d] := by
  have hall : (upperExpansions.all fun expansion => expansion.2.toList.all fun d =>
      !d.isLower && expansionRuns.any (·.image? d.toNat == some d.toNat)) = true := by
    decide +kernel
  have hchar := List.all_eq_true.mp (List.all_eq_true.mp hall _ himage) d hd
  rw [Bool.and_eq_true, Bool.not_eq_true', List.any_eq_true] at hchar
  obtain ⟨hlower, run, hrun, hcode⟩ := hchar
  rw [← Char.ofNat_toNat d] at hlower ⊢
  exact upperChar_ofNat (isSettled_of_mem (List.mem_append_right _ hrun)) (beq_iff_eq.mp hcode)
    hlower

/-- The characters that a mapping to upper case leads to stay as they are. -/
theorem upperChar_of_mem_upperChar {c d : Char} (hd : d ∈ upperChar c) : upperChar d = [d] := by
  by_cases hascii : c.toNat < 128
  · rw [upperChar, if_pos hascii] at hd
    have htest := of_forall_ascii (fun c => upperChar c.toUpper == [c.toUpper]) (by decide +kernel)
      hascii
    rw [List.mem_singleton.mp hd]
    exact beq_iff_eq.mp htest
  · have hupper : upperChar c = mapCase upperRuns upperExpansions c := if_neg hascii
    unfold mapCase at hupper
    cases hfound : upperExpansions.lookup c with
    | some image =>
        rw [hupper, hfound] at hd
        exact upperChar_of_mem_upperExpansions (Keyed.mem_of_lookup hfound) hd
    | none =>
        cases himage : upperRuns.findSome? (·.image? c.toNat) with
        | none =>
            have hsame : upperChar c = [c] := by
              rw [hupper, hfound, himage]
              rfl
            rw [hsame] at hd
            rw [List.mem_singleton.mp hd, hsame]
        | some n =>
            have hmoved : upperChar c = [Char.ofNat n] := by
              rw [hupper, hfound, himage]
              rfl
            obtain ⟨run, hrun, hn⟩ := List.exists_of_findSome?_eq_some himage
            have hsettled := isSettled_of_mem (List.mem_append_left expansionRuns hrun)
            rw [hmoved] at hd
            rw [List.mem_singleton.mp hd]
            refine upperChar_ofNat hsettled hn (isLower_head_upperChar (c := c) ?_)
            rw [hmoved]
            rfl

theorem flatMap_upperChar_upperChar (c : Char) : (upperChar c).flatMap upperChar = upperChar c := by
  rw [List.flatMap_congr fun d hd => upperChar_of_mem_upperChar hd]
  exact List.flatMap_pure_eq_map id _ |>.trans (List.map_id _)

/-- A character outside ASCII is turned into no small letter of the English alphabet but `k`. -/
theorem exists_mem_lowerChar {c : Char} (hc : 128 ≤ c.toNat) :
    ∃ d ∈ lowerChar c, d.isLower = false ∨ d = 'k' := by
  have hexpansions : (lowerExpansions.all fun expansion =>
      expansion.2.toList.any (!·.isLower)) = true := by decide +kernel
  have hruns : (lowerRuns.all fun run => Nat.blt run.last 128 ||
      Nat.blt 122 (run.first + run.shift).toNat || Nat.blt (run.last + run.shift).toNat 97 ||
      (run.first == run.last && (run.first + run.shift).toNat == 107)) = true := by decide +kernel
  rw [lowerChar, if_neg (by omega), mapCase]
  cases hfound : lowerExpansions.lookup c with
  | some image =>
      have himage := List.all_eq_true.mp hexpansions (c, image) (Keyed.mem_of_lookup hfound)
      obtain ⟨d, hd, hlower⟩ := List.any_eq_true.mp himage
      exact ⟨d, hd, Or.inl ((Bool.not_eq_true' _).mp hlower)⟩
  | none =>
      refine ⟨_, List.mem_singleton_self _, ?_⟩
      cases himage : lowerRuns.findSome? (·.image? c.toNat) with
      | none => exact Or.inl (isLower_eq_false (by simp; omega))
      | some n =>
          obtain ⟨run, hrun, hn⟩ := List.exists_of_findSome?_eq_some himage
          obtain ⟨hfirst, hlast, rfl⟩ := CaseRun.of_image? hn
          have hrange := List.all_eq_true.mp hruns run hrun
          simp only [Bool.or_eq_true, Nat.blt_eq, Bool.and_eq_true, beq_iff_eq] at hrange
          rcases hrange with ((hascii | habove) | hbelow) | ⟨hsingle, hletter⟩
          · omega
          · exact Or.inl (isLower_ofNat (by omega))
          · exact Or.inl (isLower_ofNat (by omega))
          · have hcode : (c.toNat + run.shift).toNat = 107 := by omega
            exact Or.inr (by rw [hcode]; rfl)

theorem exists_mem_lower {s : List Char} {c : Char} (hmem : c ∈ s) (hc : 128 ≤ c.toNat) :
    ∃ d ∈ (lower (.ofList s)).toList, d.isLower = false ∨ d = 'k' := by
  rw [lower, String.toList_ofList, String.toList_ofList]
  suffices hafter : ∀ before, ∃ d ∈ lowerAfter before s, d.isLower = false ∨ d = 'k' from
    hafter []
  induction s with
  | nil => cases hmem
  | cons a s ih =>
      intro before
      rw [lowerAfter]
      rcases List.mem_cons.mp hmem with rfl | hmem
      · have himage : ∃ d ∈ (if c == 'Σ' then
              if nextIsCased before && !nextIsCased s then ['ς'] else ['σ']
            else lowerChar c), d.isLower = false ∨ d = 'k' := by
          split_ifs
          · exact ⟨'ς', by decide⟩
          · exact ⟨'σ', by decide⟩
          · exact exists_mem_lowerChar hc
        obtain ⟨d, hd, hlower⟩ := himage
        exact ⟨d, List.mem_append_left _ hd, hlower⟩
      · obtain ⟨d, hd, hlower⟩ := ih hmem (a :: before)
        exact ⟨d, List.mem_append_right _ hd, hlower⟩

end RelSchema.Text
