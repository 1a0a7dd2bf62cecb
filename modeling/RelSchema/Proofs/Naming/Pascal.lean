import Mathlib.Tactic.Common
import RelSchema.Naming.Case
import RelSchema.Proofs.Text.Case
import RelSchema.Proofs.Text.Cut

/-!
# Names with capitals

A name in capitals opens with no small letter of the English alphabet, so it is the name of no
scalar. It is a word if the original name consists of letters, digits and underscores of ASCII, and
it is not empty if that name has anything but underscores.
-/

namespace RelSchema.Naming

theorem acronym?_spec {word capitals : String} (h : acronym? word = some capitals) :
    capitals ≠ "" ∧ ∀ c ∈ capitals.toList, c.isUpper = true := by
  unfold acronym? at h
  split at h <;> cases h <;> exact ⟨by decide, List.all_eq_true.mp (by decide)⟩

theorem capitalize_cons (c : Char) (rest : List Char) :
    (∃ capitals : String, capitals ≠ "" ∧ (∀ d ∈ capitals.toList, d.isUpper = true) ∧
        capitalize (c :: rest) = capitals.toList) ∨
      capitalize (c :: rest) = Text.upperChar c ++ rest := by
  rw [capitalize]
  cases hacronym : acronym? (Text.lower (.ofList (c :: rest))) with
  | some capitals =>
      obtain ⟨hne, hupper⟩ := acronym?_spec hacronym
      exact Or.inl ⟨capitals, hne, hupper, rfl⟩
  | none => exact Or.inr rfl

theorem capitalize_ne_nil {word : List Char} (h : word ≠ []) : capitalize word ≠ [] := by
  obtain ⟨c, rest, rfl⟩ := List.exists_cons_of_ne_nil h
  rcases capitalize_cons c rest with ⟨capitals, hne, -, hcapitals⟩ | hfirst
  · rw [hcapitals]
    simpa using hne
  · rw [hfirst]
    exact fun hnil => Text.upperChar_ne_nil c (List.append_eq_nil_iff.mp hnil).1

theorem isLower_head_capitalize {word : List Char} {d : Char} (hd : d ∈ (capitalize word).head?) :
    d.isLower = false := by
  cases word with
  | nil => cases hd
  | cons c rest =>
      rcases capitalize_cons c rest with ⟨capitals, -, hupper, hcapitals⟩ | hfirst
      · rw [hcapitals] at hd
        exact Text.isLower_of_isUpper (hupper d (List.mem_of_head? hd))
      · obtain ⟨first, more, hupper⟩ := List.exists_cons_of_ne_nil (Text.upperChar_ne_nil c)
        apply Text.isLower_head_upperChar (c := c)
        rw [hfirst, hupper] at hd
        rw [hupper]
        exact hd

theorem isLower_head_flatMap_capitalize {words : List (List Char)} {d : Char}
    (hd : d ∈ (words.flatMap capitalize).head?) : d.isLower = false := by
  induction words with
  | nil => cases hd
  | cons word words ih =>
      rw [List.flatMap_cons] at hd
      cases hword : capitalize word with
      | nil =>
          rw [hword] at hd
          exact ih hd
      | cons c rest =>
          have hhead : d ∈ (capitalize word).head? := by
            rw [hword] at hd ⊢
            exact hd
          exact isLower_head_capitalize hhead

theorem isLower_head_toPascalCase {name : String} {d : Char}
    (hd : d ∈ (toPascalCase name).toList.head?) : d.isLower = false := by
  rw [toPascalCase, String.toList_ofList] at hd
  exact isLower_head_flatMap_capitalize hd

theorem toPascalCase_ne_empty {name : String} (h : ∃ c ∈ name.toList, c ≠ '_') :
    toPascalCase name ≠ "" := by
  have hpart : ∃ part ∈ Text.splitAt '_' name.toList, part ≠ [] := by
    refine Text.exists_part_ne_nil_iff.mpr ?_
    simpa using h
  obtain ⟨part, hpart, hne⟩ := hpart
  intro hempty
  rw [toPascalCase, String.ofList_eq_empty_iff, List.flatMap_eq_nil_iff] at hempty
  exact capitalize_ne_nil hne (hempty part hpart)

/-- Whether a character is a letter, a digit or the underscore of ASCII. -/
def isAsciiWord (c : Char) : Bool :=
  c.isAlphanum || c == '_'

theorem isAlphanum_of_isUpper {c : Char} (h : c.isUpper = true) : c.isAlphanum = true := by
  have halpha : c.isAlpha = true := Bool.or_eq_true_iff.mpr (Or.inl h)
  exact Bool.or_eq_true_iff.mpr (Or.inl halpha)

theorem isAlphanum_of_isLower {c : Char} (h : c.isLower = true) : c.isAlphanum = true := by
  have halpha : c.isAlpha = true := Bool.or_eq_true_iff.mpr (Or.inr h)
  exact Bool.or_eq_true_iff.mpr (Or.inl halpha)

theorem isAsciiWord_of_isUpper {c : Char} (h : c.isUpper = true) : isAsciiWord c = true :=
  Bool.or_eq_true_iff.mpr (Or.inl (isAlphanum_of_isUpper h))

theorem toNat_lt_of_isAlphanum {c : Char} (h : c.isAlphanum = true) : c.toNat < 128 := by
  rcases Bool.or_eq_true_iff.mp h with halpha | hdigit
  · rcases Bool.or_eq_true_iff.mp halpha with hupper | hlower
    · have hhigh : c.toNat ≤ 90 := UInt32.le_iff_toNat_le.mp (of_decide_eq_true hupper).2
      omega
    · have hhigh : c.toNat ≤ 122 := UInt32.le_iff_toNat_le.mp
        (of_decide_eq_true (Bool.and_eq_true_iff.mp hlower).2)
      omega
  · have hhigh : c.toNat ≤ 57 := UInt32.le_iff_toNat_le.mp
      (of_decide_eq_true (Bool.and_eq_true_iff.mp hdigit).2)
    omega

theorem toNat_lt_of_isAsciiWord {c : Char} (hc : isAsciiWord c = true) : c.toNat < 128 := by
  rw [isAsciiWord, Bool.or_eq_true, beq_iff_eq] at hc
  rcases hc with halphanum | rfl
  · exact toNat_lt_of_isAlphanum halphanum
  · decide

theorem isWordChar_of_isAsciiWord {c : Char} (hc : isAsciiWord c = true) :
    Text.isWordChar c = true := by
  rw [Text.isWordChar, if_pos (toNat_lt_of_isAsciiWord hc)]
  exact hc

theorem isAsciiWord_toUpper {c : Char} (hc : isAsciiWord c = true) :
    isAsciiWord c.toUpper = true := by
  have htest := Text.of_forall_ascii (fun c => !isAsciiWord c || isAsciiWord c.toUpper)
    (by decide +kernel) (toNat_lt_of_isAsciiWord hc)
  simpa [hc] using htest

theorem isWordChar_toPascalCase {name : String} (h : ∀ c ∈ name.toList, isAsciiWord c = true) :
    ∀ c ∈ (toPascalCase name).toList, Text.isWordChar c = true := by
  have hcapitalize : ∀ word : List Char, (∀ c ∈ word, isAsciiWord c = true) →
      ∀ c ∈ capitalize word, Text.isWordChar c = true := by
    intro word hword
    cases word with
    | nil => exact List.forall_mem_nil _
    | cons c rest =>
        obtain ⟨hc, hrest⟩ := List.forall_mem_cons.mp hword
        rcases capitalize_cons c rest with ⟨capitals, -, hupper, hcapitals⟩ | hfirst
        · rw [hcapitals]
          intro d hd
          exact isWordChar_of_isAsciiWord (isAsciiWord_of_isUpper (hupper d hd))
        · have hupper : Text.upperChar c = [c.toUpper] := if_pos (toNat_lt_of_isAsciiWord hc)
          rw [hfirst, hupper]
          exact List.forall_mem_cons.mpr ⟨isWordChar_of_isAsciiWord (isAsciiWord_toUpper hc),
            fun d hd => isWordChar_of_isAsciiWord (hrest d hd)⟩
  intro c hc
  rw [toPascalCase, String.toList_ofList] at hc
  obtain ⟨part, hpart, hc⟩ := List.mem_flatMap.mp hc
  exact hcapitalize part (fun d hd => h d (Text.of_mem_splitWhere hpart d hd).1) c hc

end RelSchema.Naming
