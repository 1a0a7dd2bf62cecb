import Mathlib.Tactic.Common
import RelSchema.Number.Integer
import RelSchema.Proofs.Text.Cut
import RelSchema.Proofs.Text.Trim

/-!
# Decimal numerals

The decimal digits of a natural number are read back as the number, provided that there are not more
of them than are read.
-/

namespace RelSchema.Number

open Nat (toDigits)

theorem exists_eq_digitChar {c : Char} (hc : c.isDigit = true) : ∃ d < 10, c = Nat.digitChar d := by
  have hrange : 48 ≤ c.toNat ∧ c.toNat ≤ 57 := by
    simpa [Char.isDigit, UInt32.le_iff_toNat_le] using hc
  refine ⟨c.toNat - 48, by omega, ?_⟩
  have hchars : ∀ d < 10, Nat.digitChar d = Char.ofNat (48 + d) := by decide
  rw [hchars _ (by omega), Nat.add_sub_cancel' hrange.1, Char.ofNat_toNat]

theorem hexValue?_of_isDigit {c : Char} (hc : c.isDigit = true) :
    hexValue? c = some (c.toNat - '0'.toNat) :=
  if_pos hc

theorem isDecimalDigit_of_isDigit {c : Char} (hc : c.isDigit = true) :
    (hexValue? c).any (· < 10) = true := by
  obtain ⟨d, hd, rfl⟩ := exists_eq_digitChar hc
  revert d
  decide

theorem ne_of_isDigit {c : Char} (hc : c.isDigit = true) {d : Char} (hd : d.isDigit = false) :
    c ≠ d := by
  rintro rfl
  rw [hc] at hd
  cases hd

theorem not_isNumberBlank_of_isDigit {c : Char} (hc : c.isDigit = true) :
    isNumberBlank c = false := by
  obtain ⟨d, hd, rfl⟩ := exists_eq_digitChar hc
  revert d
  decide

theorem digitChar_decimalValue {c : Char} (hc : c.isDigit = true) :
    (match Text.decimalValue? c with
      | some value => Nat.digitChar value
      | none => c) = c := by
  obtain ⟨d, hd, rfl⟩ := exists_eq_digitChar hc
  revert d
  decide

theorem isDigit_of_mem_toDigits {n : Nat} {c : Char} (hc : c ∈ toDigits 10 n) : c.isDigit = true :=
  Nat.isDigit_of_mem_toDigits (by decide) (by decide) hc

theorem natOfDigits_toDigits (n : Nat) : natOfDigits 10 (toDigits 10 n) = n := by
  have hfold : natOfDigits 10 (toDigits 10 n) = Nat.ofDigitChars 10 (toDigits 10 n) 0 := by
    rw [Nat.ofDigitChars_eq_foldl, natOfDigits]
    refine List.foldl_ext _ _ 0 fun value c hc => ?_
    rw [hexValue?_of_isDigit (isDigit_of_mem_toDigits hc), Option.getD_some, Nat.mul_comm]
  rw [hfold, Nat.ofDigitChars_toDigits (by decide) (by decide)]

theorem asciiNumeral_eq_self {s : List Char} (hs : ∀ c ∈ s, c.isDigit = true) :
    asciiNumeral s = s := by
  have hstart : s.dropWhile isNumberBlank = s := by
    cases s with
    | nil => rfl
    | cons c rest =>
        have hc := not_isNumberBlank_of_isDigit (hs c List.mem_cons_self)
        rw [List.dropWhile_cons_of_neg (by rw [hc]; exact Bool.false_ne_true)]
  have hend : Text.dropEndWhile isNumberBlank s = s :=
    Text.dropEndWhile_eq_self fun c hc =>
      not_isNumberBlank_of_isDigit (hs c (List.mem_of_mem_getLast? hc))
  rw [asciiNumeral, hstart, hend]
  exact (List.map_congr_left fun c hc => digitChar_decimalValue (hs c hc)).trans (List.map_id' s)

theorem cutSign_of_isDigit {s : List Char} (hs : ∀ c ∈ s.head?, c.isDigit = true) :
    cutSign s = (false, s) := by
  unfold cutSign
  split
  · exact absurd (hs '-' rfl) (by decide)
  · exact absurd (hs '+' rfl) (by decide)
  · rfl

theorem dropBase_ten (s : List Char) : dropBase 10 s = s := by
  unfold dropBase
  split <;> rfl

theorem isDigitRun_of_all {isDigit : Char → Bool} {s : List Char} (hne : s ≠ [])
    (hs : ∀ c ∈ s, isDigit c = true) (hunderscore : '_' ∉ s) : isDigitRun isDigit s = true := by
  fun_induction isDigitRun isDigit s with
  | case1 => exact absurd rfl hne
  | case2 c => exact hs c List.mem_cons_self
  | case3 c rest ih => simp at hunderscore
  | case4 c rest hrest hother ih =>
      rw [hs c List.mem_cons_self, Bool.true_and]
      exact ih hrest (fun d hd => hs d (List.mem_cons_of_mem c hd))
        fun hmem => hunderscore (List.mem_cons_of_mem c hmem)

/-- The digits of a number are read as the number unless there are too many of them. -/
theorem readInt_toDigits (n : Nat) :
    readInt 10 (toDigits 10 n)
      = if (toDigits 10 n).length ≤ digitLimit then .ok (n : Int)
        else .error (.oversized (toDigits 10 n).length) := by
  have hdigit : ∀ c ∈ toDigits 10 n, c.isDigit = true := fun c hc => isDigit_of_mem_toDigits hc
  have hunderscore : '_' ∉ toDigits 10 n := fun hmem => absurd (hdigit '_' hmem) (by decide)
  have hsign : cutSign (toDigits 10 n) = (false, toDigits 10 n) :=
    cutSign_of_isDigit fun c hc => hdigit c (List.mem_of_mem_head? hc)
  have hrun : (toDigits 10 n).takeWhile (fun c => (hexValue? c).any (· < 10) || c == '_')
      = toDigits 10 n := by
    refine List.takeWhile_eq_self_iff.mpr fun c hc => ?_
    rw [isDecimalDigit_of_isDigit (hdigit c hc), Bool.true_or]
  have hall : (toDigits 10 n).filter (· != '_') = toDigits 10 n :=
    List.filter_eq_self.mpr fun c hc => by simpa using ne_of_isDigit (hdigit c hc) (by decide)
  have hdigits : isDigitRun (fun c => (hexValue? c).any (· < 10)) (toDigits 10 n) = true :=
    isDigitRun_of_all Nat.toDigits_ne_nil (fun c hc => isDecimalDigit_of_isDigit (hdigit c hc))
      hunderscore
  unfold readInt
  simp only [asciiNumeral_eq_self hdigit, hsign, dropBase_ten, hrun, hall, hdigits,
    natOfDigits_toDigits]
  by_cases hlimit : (toDigits 10 n).length ≤ digitLimit
  · simp [hlimit, withSign]
  · simp [hlimit, Nat.lt_of_not_le hlimit]

end RelSchema.Number
