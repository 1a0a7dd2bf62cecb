import Mathlib.Tactic.Common
import RelSchema.Sql.Quote
import RelSchema.Text.Case
import RelSchema.Text.Class

/-!
# Characters of words and numbers

Blanks, quotes, parentheses and the marks of lists and comments are reserved: they occur in no word,
in no number and in no keyword, whatever script these are written in.
-/

namespace RelSchema.Text

/-- What holds of all characters of a list is decided by going through that list, and not through
all characters. -/
instance (priority := high) decidableForallMem (s : List Char) (p : Char → Prop)
    [DecidablePred p] : Decidable (∀ c ∈ s, p c) :=
  List.decidableBAll p s

instance (priority := high) decidableForallMemOption (c? : Option Char) (p : Char → Prop)
    [DecidablePred p] : Decidable (∀ c ∈ c?, p c) :=
  Option.decidableForallMem c?

theorem CodeRanges.exists_of_holdsBetween {ranges : CodeRanges} {code low high : Nat}
    (h : ranges.holdsBetween code low high = true) :
    ∃ bounds ∈ ranges.bounds, bounds.1 ≤ code ∧ code ≤ bounds.2 := by
  fun_induction CodeRanges.holdsBetween ranges code low high with
  | case1 low high hlt middle hnone => cases h
  | case2 low high hlt middle first last hsome hbelow ih => exact ih h
  | case3 low high hlt middle first last hsome hbelow habove ih => exact ih h
  | case4 low high hlt middle first last hsome hbelow habove =>
      exact ⟨(first, last), Array.mem_of_getElem? hsome, Nat.le_of_not_lt hbelow,
        Nat.le_of_not_lt habove⟩
  | case5 low high hge => cases h

def blankCodes : List Nat :=
  [0x9, 0xa, 0xb, 0xc, 0xd, 0x1c, 0x1d, 0x1e, 0x1f, 0x20, 0x85, 0xa0, 0x1680, 0x2000, 0x2001,
    0x2002, 0x2003, 0x2004, 0x2005, 0x2006, 0x2007, 0x2008, 0x2009, 0x200a, 0x2028, 0x2029, 0x202f,
    0x205f, 0x3000]

/-- The code points of the quotes, the parentheses and the marks of lists and comments. -/
def markCodes : List Nat :=
  ['\'', '"', '\x60', '(', ')', ',', ';', '-', '/'].map Char.toNat

theorem mem_blankCodes {c : Char} (hc : isBlank c = true) : c.toNat ∈ blankCodes := by
  simp only [isBlank, Bool.or_eq_true, Bool.and_eq_true, decide_eq_true_eq, beq_iff_eq] at hc
  simp only [blankCodes, List.mem_cons, List.not_mem_nil, or_false]
  omega

/-- Whether a character is reserved for blanks, quotes, parentheses and marks. -/
def IsReserved (c : Char) : Prop :=
  c.toNat ∈ blankCodes ++ markCodes

instance (c : Char) : Decidable (IsReserved c) :=
  inferInstanceAs (Decidable (_ ∈ _))

theorem isBlank_of_isSeparator {c : Char} (hc : isSeparator c = true) : isBlank c = true := by
  simp only [isSeparator, Bool.or_eq_true, beq_iff_eq, Bool.and_eq_true, decide_eq_true_eq] at hc
  rcases hc with rfl | hrange
  · decide
  · simp [isBlank, hrange]

theorem isBlank_of_isLineBreak {c : Char} (hc : isLineBreak c = true) : isBlank c = true := by
  simp only [isLineBreak, Bool.or_eq_true, Bool.and_eq_true, decide_eq_true_eq, beq_iff_eq] at hc
  simp only [isBlank, Bool.or_eq_true, Bool.and_eq_true, decide_eq_true_eq, beq_iff_eq]
  omega

theorem isReserved_of_isBlank {c : Char} (hc : isBlank c = true) : IsReserved c :=
  List.mem_append_left _ (mem_blankCodes hc)

theorem isReserved_of_mem {c : Char}
    (hc : c ∈ ['\'', '"', '\x60', '(', ')', ',', ';', '-', '/']) : IsReserved c :=
  List.mem_append_right _ (List.mem_map_of_mem hc)

theorem not_isReserved_of_test (test : Char → Bool)
    (htest : ∀ code ∈ blankCodes ++ markCodes, test (Char.ofNat code) = false) {c : Char}
    (hc : test c = true) : ¬ IsReserved c := by
  intro hreserved
  have hfalse := htest c.toNat hreserved
  rw [Char.ofNat_toNat, hc] at hfalse
  cases hfalse

theorem not_isReserved_of_isWordChar {c : Char} (hc : isWordChar c = true) : ¬ IsReserved c := by
  by_cases hascii : c.toNat < 128
  · rw [isWordChar, if_pos hascii] at hc
    exact not_isReserved_of_test (fun c => c.isAlphanum || c == '_') (by decide) hc
  · intro hreserved
    rw [isWordChar, if_neg hascii] at hc
    obtain ⟨bounds, hbounds, hfirst, hlast⟩ := CodeRanges.exists_of_holdsBetween hc
    have htest : (wordRanges.bounds.toList.all fun bounds => (blankCodes ++ markCodes).all
        fun code => Nat.blt code bounds.1 || Nat.blt bounds.2 code) = true := by decide +kernel
    have hbound := List.all_eq_true.mp (List.all_eq_true.mp htest bounds hbounds.val) _ hreserved
    simp only [Nat.blt_eq, Bool.or_eq_true] at hbound
    omega

theorem isBlank_of_isWordChar {c : Char} (hc : isWordChar c = true) : isBlank c = false := by
  by_contra hblank
  exact not_isReserved_of_isWordChar hc (isReserved_of_isBlank (by simpa using hblank))

theorem not_isReserved_of_isDecimal {c : Char} (hc : isDecimal c = true) : ¬ IsReserved c := by
  by_cases hascii : c.toNat < 128
  · refine not_isReserved_of_test Char.isDigit (by decide) ?_
    rw [isDecimal, decimalValue?, if_pos hascii] at hc
    by_contra hdigit
    rw [if_neg hdigit] at hc
    cases hc
  · intro hreserved
    rw [isDecimal, decimalValue?, if_neg hascii, Option.isSome_map] at hc
    obtain ⟨first, hfind⟩ := Option.isSome_iff_exists.mp hc
    have hbounds := List.find?_some hfind
    have hfirst := List.mem_of_find?_eq_some hfind
    have htest : (decimalZeros.all fun first => (blankCodes ++ markCodes).all
        fun code => Nat.blt code first || Nat.blt (first + 9) code) = true := by decide +kernel
    have hbound := List.all_eq_true.mp (List.all_eq_true.mp htest first hfirst) _ hreserved
    simp only [Bool.and_eq_true, decide_eq_true_eq] at hbounds
    simp only [Nat.blt_eq, Bool.or_eq_true] at hbound
    omega

def keywordLetters : List Char := "truefalsenullcurrent_".toList

theorem toLower_cases (c : Char) : c.isUpper = true ∨ c.toLower = c := by
  by_cases h : c.isUpper = true
  · exact Or.inl h
  · exact Or.inr (dif_neg fun hrange => h (decide_eq_true hrange))

theorem not_isReserved_of_isLetter {letter c : Char} (hletter : letter ∈ keywordLetters)
    (hc : isLetter letter c = true) : ¬ IsReserved c := by
  have hletters : ∀ letter ∈ keywordLetters, letter.toNat ∉ blankCodes ++ markCodes := by decide
  have hspecial : ∀ special ∈ ['\u0130', '\u0131', '\u017f', '\u212a'],
      special.toNat ∉ blankCodes ++ markCodes := by decide
  simp only [isLetter, Bool.or_eq_true, Bool.and_eq_true, beq_iff_eq] at hc
  rcases hc with ((hlower | ⟨_, rfl | rfl⟩) | ⟨_, rfl⟩) | ⟨_, rfl⟩
  · rcases toLower_cases c with hupper | hsame
    · exact not_isReserved_of_test Char.isUpper (by decide) hupper
    · rw [← hsame, hlower]
      exact hletters letter hletter
  all_goals exact hspecial _ (by decide)

/-- A keyword in front of a text consists of characters that are not reserved. -/
theorem exists_of_dropKeyword? {word s rest : List Char} (hword : word ⊆ keywordLetters)
    (h : dropKeyword? word s = some rest) :
    ∃ front, s = front ++ rest ∧ front.length = word.length ∧ ∀ c ∈ front, ¬ IsReserved c := by
  induction word generalizing s with
  | nil =>
      cases h
      exact ⟨[], rfl, rfl, by simp⟩
  | cons letter word ih =>
      cases s with
      | nil => cases h
      | cons c s =>
          rw [dropKeyword?] at h
          split_ifs at h with hc
          obtain ⟨front, rfl, hlength, hfront⟩ :=
            ih (fun d hd => hword (List.mem_cons_of_mem letter hd)) h
          refine ⟨c :: front, rfl, congrArg Nat.succ hlength, ?_⟩
          intro d hd
          rcases List.mem_cons.mp hd with rfl | hd
          · exact not_isReserved_of_isLetter (hword List.mem_cons_self) hc
          · exact hfront d hd

theorem upperChar_of_isReserved {c : Char} (hc : IsReserved c) : upperChar c = [c] := by
  have hall : ∀ code ∈ blankCodes ++ markCodes,
      upperChar (Char.ofNat code) = [Char.ofNat code] := by decide +kernel
  have hsame := hall c.toNat hc
  rwa [Char.ofNat_toNat] at hsame

theorem not_isReserved_of_upper {w : List Char} {word : String}
    (hupper : upper (.ofList w) = word) (hword : ∀ c ∈ word.toList, ¬ IsReserved c) :
    ∀ c ∈ w, ¬ IsReserved c := by
  intro c hc hreserved
  refine hword c ?_ hreserved
  rw [← hupper, upper, String.toList_ofList, String.toList_ofList, List.mem_flatMap]
  exact ⟨c, hc, by rw [upperChar_of_isReserved hreserved]; exact List.mem_cons_self⟩

end RelSchema.Text
