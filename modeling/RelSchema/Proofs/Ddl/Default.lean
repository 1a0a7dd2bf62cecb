import RelSchema.Proofs.Ddl.Rendered
import RelSchema.Proofs.Text.Class

/-!
# Defaults in a clause

A default in quotes is read back as it is, whatever it holds, and so is a default of one word: a
number, a truth value, the null value or one of the keywords for the present time. No other default
is written without quotes unless it looks like a literal, a call or an expression in parentheses.
-/

namespace RelSchema.Ddl

open Sql (Token SelfContained Trimmed isWordPart)
open Sql.Pending (wordToken runToken)
open Text (IsReserved)

/-- Whether a text is one word without reserved characters, possibly with a hyphen in front. -/
def IsSingleWord (s : List Char) : Prop :=
  ∃ core, core ≠ [] ∧ (∀ c ∈ core, ¬ IsReserved c) ∧ (s = core ∨ s = '-' :: core)

theorem isSingleWord_of_all {s : List Char} (hne : s ≠ []) (hs : ∀ c ∈ s, ¬ IsReserved c) :
    IsSingleWord s :=
  ⟨s, hne, hs, Or.inl rfl⟩

theorem not_isReserved_append {a b : List Char} (ha : ∀ c ∈ a, ¬ IsReserved c)
    (hb : ∀ c ∈ b, ¬ IsReserved c) : ∀ c ∈ a ++ b, ¬ IsReserved c := by
  intro c hc
  rcases List.mem_append.mp hc with hc | hc
  · exact ha c hc
  · exact hb c hc

/-- A number is, behind its sign, digits with at most a point in between. -/
theorem exists_of_isNumber {s : List Char} (h : isNumber s = true) : ∃ unsigned,
    unsigned.takeWhile Text.isDecimal ≠ [] ∧
      (∀ c ∈ unsigned.dropWhile Text.isDecimal, c = '.' ∨ Text.isDecimal c = true) ∧
      (s = unsigned ∨ s = '+' :: unsigned ∨ s = '-' :: unsigned) := by
  unfold isNumber at h
  obtain ⟨hwhole, hfraction⟩ := Bool.and_eq_true_iff.mp h
  refine ⟨_, List.isEmpty_eq_false_iff.mp ((Bool.not_eq_true' _).mp hwhole), ?_, ?_⟩
  · split at hfraction
    · next hnil =>
      rw [hnil]
      exact List.forall_mem_nil _
    · next point fraction hcons =>
      simp only [Bool.and_eq_true, beq_iff_eq, List.all_eq_true] at hfraction
      rw [hcons]
      exact List.forall_mem_cons.mpr ⟨Or.inl hfraction.1.1, fun c hc => Or.inr (hfraction.2 c hc)⟩
  · cases s with
    | nil => exact Or.inl rfl
    | cons c rest =>
        by_cases hsign : (c == '+' || c == '-') = true
        · have hc : c = '+' ∨ c = '-' := by simpa using hsign
          simp only [hsign, if_true]
          rcases hc with rfl | rfl
          · exact Or.inr (Or.inl rfl)
          · exact Or.inr (Or.inr rfl)
        · simp [hsign]

theorem isSingleWord_of_isNumber {s : List Char} (h : isNumber s = true) : IsSingleWord s := by
  obtain ⟨unsigned, hwhole, hfraction, hs⟩ := exists_of_isNumber h
  have hdigits : ∀ c ∈ unsigned.takeWhile Text.isDecimal, ¬ IsReserved c :=
    fun c hc => Text.not_isReserved_of_isDecimal (List.mem_takeWhile_imp hc)
  have hrest : ∀ c ∈ unsigned.dropWhile Text.isDecimal, ¬ IsReserved c := by
    intro c hc
    rcases hfraction c hc with rfl | hdecimal
    · decide
    · exact Text.not_isReserved_of_isDecimal hdecimal
  have hall : ∀ c ∈ unsigned, ¬ IsReserved c := by
    have happend := not_isReserved_append hdigits hrest
    rwa [List.takeWhile_append_dropWhile] at happend
  have hne : unsigned ≠ [] := by
    rintro rfl
    exact hwhole rfl
  rcases hs with rfl | rfl | rfl
  · exact isSingleWord_of_all hne hall
  · refine isSingleWord_of_all (List.cons_ne_nil _ _) ?_
    exact not_isReserved_append (a := ['+']) (by decide) hall
  · exact ⟨unsigned, hne, hall, Or.inr rfl⟩

theorem isSingleWord_of_isWord {word : String} {s : List Char} (hne : word.toList ≠ [])
    (hword : word.toList ⊆ Text.keywordLetters) (h : isWord word s = true) : IsSingleWord s := by
  have hdrop : Text.dropKeyword? word.toList s = some [] := by simpa [isWord] using h
  obtain ⟨front, rfl, hlength, hfront⟩ := Text.exists_of_dropKeyword? hword hdrop
  rw [List.append_nil]
  refine isSingleWord_of_all ?_ hfront
  rintro rfl
  exact hne (List.length_eq_zero_iff.mp hlength.symm)

theorem isSingleWord_of_isCurrent {s : List Char} (h : isCurrent s = true) : IsSingleWord s := by
  rw [isCurrent] at h
  cases hdrop : Text.dropKeyword? "current_".toList s with
  | none =>
      rw [hdrop] at h
      cases h
  | some rest =>
      rw [hdrop] at h
      simp only [Bool.and_eq_true, List.all_eq_true] at h
      obtain ⟨front, rfl, hlength, hfront⟩ := Text.exists_of_dropKeyword? (by decide) hdrop
      refine isSingleWord_of_all ?_ (not_isReserved_append hfront fun c hc =>
        Text.not_isReserved_of_isWordChar (h.2 c hc))
      intro hnil
      rw [(List.append_eq_nil_iff.mp hnil).1] at hlength
      revert hlength
      decide

theorem getLast?_of_isCall {s : List Char} (h : isCall s = true) : s.getLast? = some ')' := by
  simp only [isCall, Bool.and_eq_true] at h
  obtain ⟨-, h⟩ := h
  set isNameChar : Char → Bool := fun c => Text.isWordChar c || c == '.' with hdef
  have hs : s = s.takeWhile isNameChar ++ s.dropWhile isNameChar :=
    List.takeWhile_append_dropWhile.symm
  cases hdrop : s.dropWhile isNameChar with
  | nil =>
      rw [hdrop] at h
      cases h
  | cons c rest =>
      rw [hdrop] at h
      simp only [Bool.and_eq_true, beq_iff_eq] at h
      obtain ⟨⟨-, hlast⟩, -⟩ := h
      rw [hs, hdrop, List.getLast?_append, List.getLast?_cons, hlast]
      rfl

theorem isSingleWord_or_isCall {s : List Char} (h : isBare s = true) :
    IsSingleWord s ∨ isCall s = true := by
  simp only [isBare, Bool.or_eq_true] at h
  rcases h with ((((hnumber | htrue) | hfalse) | hnull) | hcurrent) | hcall
  · exact Or.inl (isSingleWord_of_isNumber hnumber)
  · exact Or.inl (isSingleWord_of_isWord (by decide) (by decide) htrue)
  · exact Or.inl (isSingleWord_of_isWord (by decide) (by decide) hfalse)
  · exact Or.inl (isSingleWord_of_isWord (by decide) (by decide) hnull)
  · exact Or.inl (isSingleWord_of_isCurrent hcurrent)
  · exact Or.inr hcall

theorem isSingleWord_of_isBare {s : List Char} (h : isBare s = true)
    (hlast : s.getLast? ≠ some ')') : IsSingleWord s :=
  (isSingleWord_or_isCall h).resolve_right fun hcall => hlast (getLast?_of_isCall hcall)

namespace IsSingleWord

variable {s : List Char}

theorem ne_nil (h : IsSingleWord s) : s ≠ [] := by
  obtain ⟨core, hne, -, rfl | rfl⟩ := h
  · exact hne
  · exact List.cons_ne_nil _ _

theorem all (h : IsSingleWord s) : ∀ c ∈ s, c = '-' ∨ ¬ IsReserved c := by
  obtain ⟨core, -, hcore, rfl | rfl⟩ := h
  · exact fun c hc => Or.inr (hcore c hc)
  · intro c hc
    rcases List.mem_cons.mp hc with rfl | hc
    · exact Or.inl rfl
    · exact Or.inr (hcore c hc)

theorem not_isBlank (h : IsSingleWord s) : ∀ c ∈ s, Text.isBlank c = false := by
  intro c hc
  rcases h.all c hc with rfl | hreserved
  · decide
  · by_contra hblank
    exact hreserved (Text.isReserved_of_isBlank (by simpa using hblank))

theorem ne_of_mem (h : IsSingleWord s) {mark : Char}
    (hmark : mark ∈ ['\'', '"', '\x60', '(', ')', ',', ';', '/']) : mark ∉ s := by
  intro hmem
  rcases h.all mark hmem with rfl | hreserved
  · revert hmark
    decide
  · refine hreserved (Text.isReserved_of_mem ?_)
    revert hmark
    simp only [List.mem_cons]
    tauto

theorem isWordPart (h : IsSingleWord s) : ∀ c ∈ s, isWordPart c = true := by
  intro c hc
  have hne : ∀ mark ∈ ['\'', '"', '\x60', '(', ')', ',', ';', '/'], c ≠ mark := by
    rintro mark hmark rfl
    exact h.ne_of_mem hmark hc
  have hseparator : Text.isSeparator c = false := by
    by_contra hseparator
    have hblank := Text.isBlank_of_isSeparator (by simpa using hseparator)
    rw [h.not_isBlank c hc] at hblank
    cases hblank
  rw [Sql.isWordPart_iff]
  refine ⟨?_, hne '(' (by decide), hne ')' (by decide), hseparator⟩
  simp [Sql.isQuote, Sql.quotes, hne '\'' (by decide), hne '"' (by decide), hne '\x60' (by decide)]

theorem selfContained (h : IsSingleWord s) : SelfContained ',' s := by
  refine .of_word h.isWordPart (h.ne_of_mem (by decide)) ?_
  obtain ⟨core, hne, hcore, hs⟩ := h
  have hhyphen : '-' ∉ core := fun hmem => hcore '-' hmem (by decide)
  have hslash : '/' ∉ core := fun hmem => hcore '/' hmem (by decide)
  refine Sql.Unmarked.of_pairs ?_ ?_ none
  · intro hpair
    rcases hs with rfl | rfl
    · exact hhyphen (hpair.subset (by simp))
    · -- only the first of the two hyphens can stand in front of the word
      rcases List.infix_cons_iff.mp hpair with hstart | hbehind
      · obtain ⟨rest, hrest⟩ := hstart
        rw [List.cons_append, List.cons.injEq] at hrest
        exact hhyphen (hrest.2 ▸ by simp)
      · exact hhyphen (hbehind.subset (by simp))
  · intro hpair
    have hmem := hpair.subset (List.mem_cons_self (a := '/') (l := ['*']))
    rcases hs with rfl | rfl
    · exact hslash hmem
    · rcases List.mem_cons.mp hmem with hslash' | hmem
      · revert hslash'
        decide
      · exact hslash hmem

theorem trimmed (h : IsSingleWord s) : Trimmed s :=
  ⟨h.ne_nil, fun c hc => h.not_isBlank c (List.mem_of_mem_head? hc),
    fun c hc => h.not_isBlank c (List.mem_of_mem_getLast? hc)⟩

theorem tokens_eq (h : IsSingleWord s) (dialect : Dialect) :
    tokens dialect s = [wordToken 0 s.reverse s.length] := by
  have hend : ∀ c ∈ ([] : List Char).head?, Sql.isWordPart c = false := by simp
  have htokens := tokensAt_word dialect 0 h.ne_nil h.isWordPart hend
  rw [List.append_nil, Nat.zero_add, tokensAt_nil] at htokens
  exact htokens

/-- A default of one word is read as it is. -/
theorem readDefault_eq (h : IsSingleWord s) (dialect : Dialect) :
    readDefault dialect s = .ofList s := by
  have htrim : Text.trim s = s := Text.trim_eq_self h.trimmed.first h.trimmed.last
  have hcomma : Text.dropEndWhile (· == ',') s = s := by
    refine Text.dropEndWhile_eq_self fun c hc => ?_
    have hne : c ≠ ',' := by
      rintro rfl
      exact h.ne_of_mem (by decide) (List.mem_of_mem_getLast? hc)
    simpa using hne
  have hquotes : withoutQuotes s = s := by
    cases s with
    | nil => rfl
    | cons c rest =>
        cases rest with
        | nil => rfl
        | cons d rest =>
            have hquote := (Sql.isWordPart_iff.mp (h.isWordPart c List.mem_cons_self)).1
            rw [withoutQuotes, hquote]
            rfl
  have hslice : Sql.slice s 0 s.length = s := by
    rw [Sql.slice, List.drop_zero, Nat.sub_zero, List.take_length]
  have hdefault : defaultTokens true 0 [wordToken 0 s.reverse s.length]
      = [wordToken 0 s.reverse s.length] := by
    rw [defaultTokens_cons]
    rfl
  rw [readDefault, h.tokens_eq, hdefault, defaultOfTokens]
  simp only [List.isEmpty_nil, wordToken, Bool.true_and, List.getLast?_nil, Option.getD_none]
  rw [if_neg (by decide), defaultText, hslice, htrim, hcomma, htrim, hquotes]

end IsSingleWord

section Enclosed

variable (dialect : Dialect) (s : List Char)

theorem tokens_enclosed :
    tokens dialect (Naming.enclosed '\'' s)
      = [runToken '\'' 0 s.reverse (Naming.enclosed '\'' s).length] := by
  have hend : ∀ c ∈ ([] : List Char).head?, c ≠ '\'' := by simp
  have htokens := tokensAt_literal dialect 0 s hend
  rw [List.append_nil, Nat.zero_add, tokensAt_nil] at htokens
  exact htokens

/-- A default in quotes is read as what stands between them. -/
theorem readDefault_enclosed : readDefault dialect (Naming.enclosed '\'' s) = .ofList s := by
  have hdefault : defaultTokens true 0 [runToken '\'' 0 s.reverse (Naming.enclosed '\'' s).length]
      = [runToken '\'' 0 s.reverse (Naming.enclosed '\'' s).length] := by
    rw [defaultTokens_cons]
    rfl
  have hkind : (runToken '\'' 0 s.reverse (Naming.enclosed '\'' s).length).kind = .string := rfl
  rw [readDefault, tokens_enclosed, hdefault, defaultOfTokens, hkind, if_pos (by decide), runToken,
    List.reverse_reverse]

end Enclosed

end RelSchema.Ddl
