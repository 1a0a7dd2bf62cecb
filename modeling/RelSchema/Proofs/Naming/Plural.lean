import Mathlib.Data.List.DropRight
import Mathlib.Tactic.Common
import RelSchema.Naming.Case
import RelSchema.Naming.Plural
import RelSchema.Proofs.Keyed
import RelSchema.Proofs.Text.Case
import RelSchema.Proofs.Text.Cut

/-!
# Names made from names

Neither the case of a name nor its plural can take all characters away. The plural of a name comes
back from its singular, with two exceptions: the ending `ies` counts as the plural of a `y`, which
it is behind a consonant only, and `oxes` loses two letters and becomes the irregular `ox`.
-/

namespace RelSchema.Naming

theorem separateWords_ne_nil (before : Option Char) {name : List Char} (h : name ≠ []) :
    separateWords before name ≠ [] := by
  cases name with
  | nil => exact absurd rfl h
  | cons c rest =>
      unfold separateWords
      split_ifs
      · exact List.cons_ne_nil _ _
      · exact List.cons_ne_nil _ _

theorem toSnakeCase_ne_empty {name : String} (h : name ≠ "") : toSnakeCase name ≠ "" := by
  have hne : name.toList ≠ [] := by simpa using h
  apply Text.lower_ne_empty
  intro hempty
  rw [String.ofList_eq_empty_iff, List.map_eq_nil_iff] at hempty
  exact separateWords_ne_nil none hne hempty

theorem irregularPlural?_ne_empty {word plural : String} (h : irregularPlural? word = some plural) :
    plural ≠ "" := by
  have hplurals : ∀ entry ∈ irregularPlurals, entry.2 ≠ "" := by decide
  exact hplurals (word, plural) (Keyed.mem_of_lookup h)

theorem pluralize_ne_empty {name : String} (h : name ≠ "") : pluralize name ≠ "" := by
  have hsuffix : ∀ ending : String, name ++ ending ≠ "" := by
    intro ending hempty
    exact h (String.append_eq_empty_iff.mp hempty).1
  unfold pluralize
  rw [if_neg (by simpa using h)]
  dsimp only
  cases hplural : irregularPlural? (.ofList (splitLastWord name.toList).2) with
  | some word =>
      have hword : word.toList ≠ [] := by simpa using irregularPlural?_ne_empty hplural
      intro hempty
      rw [String.ofList_eq_empty_iff, List.append_eq_nil_iff] at hempty
      exact hword hempty.2
  | none =>
      dsimp only
      split_ifs
      · exact h
      · intro hempty
        rw [String.ofList_eq_empty_iff, List.append_eq_nil_iff] at hempty
        cases hempty.2
      · exact hsuffix "es"
      · exact hsuffix "s"

/-- What can stand in front of the last word of a name. -/
def IsHead (head : List Char) : Prop :=
  ∀ c ∈ head.getLast?, c = '_'

theorem splitLastWord_of_isHead {head word : List Char} (hhead : IsHead head)
    (hword : '_' ∉ word) : splitLastWord (head ++ word) = (head, word) := by
  unfold splitLastWord
  induction head using List.reverseRecOn with
  | nil =>
      have hnone : Text.cutAtLast? '_' word = none := by
        rw [Text.cutAtLast?, Text.cutAt?_eq_none (by simpa using hword)]
        rfl
      rw [List.nil_append, hnone]
  | append_singleton head c _ =>
      obtain rfl : c = '_' := hhead c (by simp)
      rw [List.append_assoc, List.singleton_append, Text.cutAtLast?_append head hword]

theorem exists_isHead (name : List Char) :
    ∃ head word, name = head ++ word ∧ IsHead head ∧ '_' ∉ word := by
  refine ⟨name.rdropWhile (· != '_'), name.rtakeWhile (· != '_'),
    List.rdropWhile_append_rtakeWhile.symm, ?_, ?_⟩
  · intro c hc
    obtain ⟨hne, rfl⟩ := List.mem_getLast?_eq_getLast hc
    simpa using List.rdropWhile_last_not (· != '_') name hne
  · intro hmem
    simpa using List.mem_rtakeWhile_imp hmem

theorem splitLastWord_append (name : List Char) {ending : List Char} (h : '_' ∉ ending) :
    splitLastWord (name ++ ending)
      = ((splitLastWord name).1, (splitLastWord name).2 ++ ending) := by
  obtain ⟨head, word, rfl, hhead, hword⟩ := exists_isHead name
  have hlonger : '_' ∉ word ++ ending := by
    rw [List.mem_append, not_or]
    exact ⟨hword, h⟩
  rw [splitLastWord_of_isHead hhead hword, List.append_assoc,
    splitLastWord_of_isHead hhead hlonger]

theorem irregularPlurals_spec : ∀ entry ∈ irregularPlurals,
    (irregularPlural? entry.1 = some entry.2 ∧ '_' ∉ entry.1.toList ∧ entry.1 ≠ "") ∧
      irregularPlural? entry.2 = none ∧ irregularSingular? entry.2 = some entry.1 ∧
        '_' ∉ entry.2.toList ∧ entry.2 ≠ "" := by
  decide

theorem pluralize_of_irregular {head : List Char} (hhead : IsHead head) {entry : String × String}
    (hentry : entry ∈ irregularPlurals) :
    pluralize (.ofList (head ++ entry.1.toList)) = .ofList (head ++ entry.2.toList) := by
  obtain ⟨⟨hplural, hword, hne⟩, -⟩ := irregularPlurals_spec entry hentry
  have hname : ¬ (String.ofList (head ++ entry.1.toList) == "") = true := by simp [hne]
  unfold pluralize
  rw [if_neg hname, String.toList_ofList]
  dsimp only
  rw [splitLastWord_of_isHead hhead hword, String.ofList_toList, hplural]

theorem pluralize_of_irregularPlural {head : List Char} (hhead : IsHead head)
    {entry : String × String} (hentry : entry ∈ irregularPlurals) :
    pluralize (.ofList (head ++ entry.2.toList)) = .ofList (head ++ entry.2.toList) := by
  obtain ⟨-, hnone, hsingular, hword, hne⟩ := irregularPlurals_spec entry hentry
  have hname : ¬ (String.ofList (head ++ entry.2.toList) == "") = true := by simp [hne]
  unfold pluralize
  rw [if_neg hname, String.toList_ofList]
  dsimp only
  rw [splitLastWord_of_isHead hhead hword, String.ofList_toList, hnone, hsingular]
  rfl

theorem singularize_of_irregularPlural {head : List Char} (hhead : IsHead head)
    {entry : String × String} (hentry : entry ∈ irregularPlurals) :
    singularize (.ofList (head ++ entry.2.toList)) = .ofList (head ++ entry.1.toList) := by
  obtain ⟨-, -, hsingular, hword, -⟩ := irregularPlurals_spec entry hentry
  unfold singularize
  rw [String.toList_ofList]
  dsimp only
  rw [splitLastWord_of_isHead hhead hword, String.ofList_toList, hsingular]

def HasRegularWord (name : List Char) : Prop :=
  irregularPlural? (.ofList (splitLastWord name).2) = none ∧
    irregularSingular? (.ofList (splitLastWord name).2) = none

theorem eq_irregular_or_hasRegularWord (name : List Char) :
    (∃ head, IsHead head ∧ ∃ entry ∈ irregularPlurals,
        name = head ++ entry.1.toList ∨ name = head ++ entry.2.toList) ∨ HasRegularWord name := by
  obtain ⟨head, word, rfl, hhead, hword⟩ := exists_isHead name
  rw [HasRegularWord, splitLastWord_of_isHead hhead hword]
  cases hplural : irregularPlural? (.ofList word) with
  | some plural =>
      refine Or.inl ⟨head, hhead, (.ofList word, plural), Keyed.mem_of_lookup hplural, Or.inl ?_⟩
      rw [String.toList_ofList]
  | none =>
      cases hsingular : irregularSingular? (.ofList word) with
      | some singular =>
          obtain ⟨entry, hentry, -⟩ := Option.map_eq_some_iff.mp hsingular
          have hfound := List.find?_some hentry
          refine Or.inl ⟨head, hhead, entry, List.mem_of_find?_eq_some hentry, Or.inr ?_⟩
          rw [beq_iff_eq.mp hfound, String.toList_ofList]
      | none => exact Or.inr ⟨rfl, rfl⟩

/-- The ox is the only exception that ends in one of the letters that the rules turn on. -/
theorem hasRegularWord_concat {name : List Char} {c : Char} (hc : c ∈ ['s', 'x', 'y', 'z'])
    (hox : c = 'x' → (splitLastWord (name ++ [c])).2 ≠ "ox".toList) :
    HasRegularWord (name ++ [c]) := by
  have hsingulars : ∀ entry ∈ irregularPlurals, ∀ d ∈ entry.1.toList.getLast?,
      d ∈ ['s', 'x', 'y', 'z'] → entry.1 = "ox" ∧ d = 'x' := by decide
  have hplurals : ∀ entry ∈ irregularPlurals, ∀ d ∈ entry.2.toList.getLast?,
      d ∉ ['s', 'x', 'y', 'z'] := by decide
  have hmark : '_' ∉ [c] := by
    intro hmem
    rw [← List.mem_singleton.mp hmem] at hc
    exact absurd hc (by decide)
  have hlast : c ∈ (String.ofList (splitLastWord (name ++ [c])).2).toList.getLast? := by
    rw [splitLastWord_append name hmark]
    simp
  constructor
  · rw [Option.eq_none_iff_forall_ne_some]
    intro plural hplural
    obtain ⟨hword, hx⟩ := hsingulars _ (Keyed.mem_of_lookup hplural) c hlast hc
    apply hox hx
    rw [← hword, String.toList_ofList]
  · rw [irregularSingular?, Option.map_eq_none_iff, List.find?_eq_none]
    intro entry hentry hword
    apply hplurals entry hentry c _ hc
    rwa [beq_iff_eq.mp hword]

def regularPlural (name : List Char) : List Char :=
  if endsInConsonantY name then name.dropLast ++ ['i', 'e', 's']
  else if endsWith name "s" || endsWith name "x" || endsWith name "z" then name ++ ['e', 's']
  else name ++ ['s']

def regularSingular (name : List Char) : List Char :=
  if endsWith name "ies" then name.dropLast.dropLast.dropLast ++ ['y']
  else if endsWith name "ses" || endsWith name "xes" || endsWith name "zes" then
    name.dropLast.dropLast
  else if endsWith name "s" && !endsWith name "ss" then name.dropLast
  else name

theorem pluralize_of_regular {name : List Char} (hne : name ≠ []) (h : HasRegularWord name) :
    pluralize (.ofList name) = .ofList (regularPlural name) := by
  have hname : (String.ofList name == "") = false := by simpa using hne
  unfold pluralize regularPlural
  rw [hname, String.toList_ofList, if_neg Bool.false_ne_true]
  dsimp only
  rw [h.1, h.2]
  dsimp only
  rw [Option.isSome_none, if_neg Bool.false_ne_true]
  split_ifs
  · rfl
  · exact (String.ofList_append ..).symm
  · exact (String.ofList_append ..).symm

theorem singularize_of_regular {name : List Char} (h : HasRegularWord name) :
    singularize (.ofList name) = .ofList (regularSingular name) := by
  unfold singularize regularSingular
  rw [String.toList_ofList]
  dsimp only
  rw [h.2]
  dsimp only
  split_ifs <;> rfl

theorem endsWith_iff {name : List Char} {ending : String} :
    endsWith name ending = true ↔ ∃ stem, name = stem ++ ending.toList := by
  rw [endsWith, Text.dropSuffix?, Option.isSome_map, Option.isSome_iff_exists]
  constructor
  · rintro ⟨rest, hrest⟩
    refine ⟨rest.reverse, ?_⟩
    rw [← List.reverse_inj, Text.eq_append_of_dropPrefix? hrest]
    simp
  · rintro ⟨stem, rfl⟩
    rw [List.reverse_append]
    exact ⟨_, Text.dropPrefix?_append _ _⟩

theorem endsWith_append (name : List Char) (ending last : String) :
    endsWith (name ++ last.toList) (ending ++ last) = endsWith name ending := by
  rw [Bool.eq_iff_iff, endsWith_iff, endsWith_iff, String.toList_append]
  simp only [← List.append_assoc, List.append_cancel_right_eq]

theorem endsInConsonantY_iff {name : List Char} :
    endsInConsonantY name = true ↔ ∃ stem c, name = stem ++ [c, 'y'] ∧ isVowel c = false := by
  unfold endsInConsonantY
  constructor
  · intro h
    split at h
    · next c before hreverse =>
      refine ⟨before.reverse, c, ?_, by simpa using h⟩
      rw [← List.reverse_inj, hreverse]
      simp
    · cases h
  · rintro ⟨stem, c, rfl, hc⟩
    simp [hc]

/-- An `s` is cut off again, unless the letters in front make it part of a longer ending. -/
theorem regularSingular_concat {name : List Char} (hs : endsWith name "s" = false)
    (hie : ∀ stem, name ≠ stem ++ ['i', 'e'])
    (hsibilant : ∀ stem, ∀ c ∈ ['s', 'x', 'z'], name ≠ stem ++ [c, 'e']) :
    regularSingular (name ++ ['s']) = name := by
  have hcut (ending : String) (h : ∀ stem, name ≠ stem ++ ending.toList) :
      endsWith (name ++ "s".toList) (ending ++ "s") = false := by
    rw [endsWith_append, Bool.eq_false_iff, ne_eq, endsWith_iff, not_exists]
    exact h
  have hies : endsWith (name ++ ['s']) "ies" = false := hcut "ie" hie
  have hses : endsWith (name ++ ['s']) "ses" = false :=
    hcut "se" fun stem => hsibilant stem 's' (by decide)
  have hxes : endsWith (name ++ ['s']) "xes" = false :=
    hcut "xe" fun stem => hsibilant stem 'x' (by decide)
  have hzes : endsWith (name ++ ['s']) "zes" = false :=
    hcut "ze" fun stem => hsibilant stem 'z' (by decide)
  have hss : endsWith (name ++ ['s']) "ss" = false := (endsWith_append name "s" "s").trans hs
  have hlast : endsWith (name ++ ['s']) "s" = true := endsWith_iff.mpr ⟨name, rfl⟩
  rw [regularSingular, hies, hses, hxes, hzes, hss, hlast]
  simp

/-- What the rules make of the plural that they gave: the name itself, unless it ends in `ie` or in
an `e` behind a sibilant. -/
theorem regularSingular_regularPlural (name : List Char) :
    (∃ stem, name = stem ++ ['i', 'e'] ∧ regularPlural name = stem ++ ['i', 'e', 's'] ∧
        regularSingular (regularPlural name) = stem ++ ['y']) ∨
      (∃ stem, ∃ c ∈ ['s', 'x', 'z'], name = stem ++ [c, 'e'] ∧
        regularPlural name = stem ++ [c, 'e', 's'] ∧
        regularSingular (regularPlural name) = stem ++ [c]) ∨
      (∀ stem, name ≠ stem ++ ['i', 'e']) ∧ (∀ stem, name ≠ stem ++ ['x', 'e']) ∧
        regularSingular (regularPlural name) = name := by
  by_cases hy : endsInConsonantY name = true
  · obtain ⟨stem, c, rfl, hc⟩ := endsInConsonantY_iff.mp hy
    have hending : ∀ (other : List Char) (a : Char), stem ++ [c, 'y'] ≠ other ++ [a, 'e'] := by
      intro other a h
      simpa using congrArg List.getLast? h
    refine Or.inr (Or.inr ⟨fun other => hending other 'i', fun other => hending other 'x', ?_⟩)
    rw [regularPlural, if_pos hy]
    simp [regularSingular, endsWith, Text.dropSuffix?, Text.dropPrefix?]
  by_cases hsibilant : (endsWith name "s" || endsWith name "x" || endsWith name "z") = true
  · obtain ⟨stem, c, hc, rfl⟩ : ∃ stem, ∃ c ∈ ['s', 'x', 'z'], name = stem ++ [c] := by
      simp only [Bool.or_eq_true, endsWith_iff] at hsibilant
      rcases hsibilant with (⟨stem, hname⟩ | ⟨stem, hname⟩) | ⟨stem, hname⟩
      · exact ⟨stem, 's', by decide, hname⟩
      · exact ⟨stem, 'x', by decide, hname⟩
      · exact ⟨stem, 'z', by decide, hname⟩
    have hending : ∀ (other : List Char) (a : Char), stem ++ [c] ≠ other ++ [a, 'e'] := by
      intro other a h
      obtain rfl : c = 'e' := by simpa using congrArg List.getLast? h
      exact absurd hc (by decide)
    refine Or.inr (Or.inr ⟨fun other => hending other 'i', fun other => hending other 'x', ?_⟩)
    rw [regularPlural, if_neg hy, if_pos hsibilant]
    simp only [List.mem_cons, List.not_mem_nil, or_false] at hc
    rcases hc with rfl | rfl | rfl <;>
      simp [regularSingular, endsWith, Text.dropSuffix?, Text.dropPrefix?]
  have hplural : regularPlural name = name ++ ['s'] := by
    rw [regularPlural, if_neg hy, if_neg hsibilant]
  rw [hplural]
  by_cases hie : ∃ stem, name = stem ++ ['i', 'e']
  · obtain ⟨stem, rfl⟩ := hie
    refine Or.inl ⟨stem, rfl, by simp, ?_⟩
    simp [regularSingular, endsWith, Text.dropSuffix?, Text.dropPrefix?]
  by_cases hsibilantE : ∃ stem, ∃ c ∈ ['s', 'x', 'z'], name = stem ++ [c, 'e']
  · obtain ⟨stem, c, hc, rfl⟩ := hsibilantE
    refine Or.inr (Or.inl ⟨stem, c, hc, rfl, by simp, ?_⟩)
    simp only [List.mem_cons, List.not_mem_nil, or_false] at hc
    rcases hc with rfl | rfl | rfl <;>
      simp [regularSingular, endsWith, Text.dropSuffix?, Text.dropPrefix?]
  push Not at hie hsibilantE
  simp only [Bool.or_eq_true, not_or, Bool.not_eq_true] at hsibilant
  exact Or.inr (Or.inr ⟨hie, fun stem => hsibilantE stem 'x' (by decide),
    regularSingular_concat hsibilant.1.1 hie hsibilantE⟩)

/-- A plural by the rules is no exception. -/
theorem hasRegularWord_regularPlural (name : List Char) : HasRegularWord (regularPlural name) := by
  obtain ⟨stem, hstem⟩ : ∃ stem, regularPlural name = stem ++ ['s'] := by
    unfold regularPlural
    split_ifs
    · exact ⟨name.dropLast ++ ['i', 'e'], by simp⟩
    · exact ⟨name ++ ['e'], by simp⟩
    · exact ⟨name, rfl⟩
  rw [hstem]
  exact hasRegularWord_concat (by decide) fun h => absurd h (by decide)

/-! ### The plural of the singular

The rules for endings overlap, so the singular of a plural may be another word. Its plural is
compared with the one that it was made from ending by ending.
-/

/-- The endings of the names whose plural is not that of its singular. -/
def LosesPlural (name : List Char) : Prop :=
  (splitLastWord name).2 = "oxe".toList ∨
    ∃ stem, name = stem ++ "ie".toList ∧ ∀ c ∈ stem.getLast?, isVowel c = true

theorem not_losesPlural_of_irregular {head : List Char} (hhead : IsHead head)
    {word : String} (hword : word ∈ irregularPlurals.flatMap fun entry => [entry.1, entry.2]) :
    ¬ LosesPlural (head ++ word.toList) := by
  have hspec : ∀ word ∈ irregularPlurals.flatMap (fun entry => [entry.1, entry.2]),
      '_' ∉ word.toList ∧ word.toList ≠ "oxe".toList ∧ 2 ≤ word.toList.length ∧
        ¬ "ie".toList <:+ word.toList := by decide
  obtain ⟨hmark, hox, hlength, hie⟩ := hspec word hword
  rintro (hloses | ⟨stem, hstem, -⟩)
  · rw [splitLastWord_of_isHead hhead hmark] at hloses
    exact hox hloses
  · apply hie
    exact List.suffix_of_suffix_length_le ⟨stem, hstem.symm⟩ (List.suffix_append _ _) hlength

theorem losesPlural_ie_iff {stem : List Char} :
    LosesPlural (stem ++ ['i', 'e']) ↔ ∀ c ∈ stem.getLast?, isVowel c = true := by
  constructor
  · rintro (hoxe | ⟨other, hother, hvowel⟩)
    · rw [splitLastWord_append stem (by decide)] at hoxe
      have hending : ['i', 'e'] <:+ "oxe".toList := ⟨_, hoxe⟩
      exact absurd hending (by decide)
    · rwa [List.append_cancel_right hother]
  · exact fun hvowel => Or.inr ⟨stem, rfl, hvowel⟩

theorem losesPlural_e_iff {stem : List Char} {c : Char} (hc : c ≠ 'i') :
    LosesPlural (stem ++ [c, 'e']) ↔ (splitLastWord (stem ++ [c])).2 = "ox".toList := by
  have hword : (splitLastWord (stem ++ [c, 'e'])).2
      = (splitLastWord (stem ++ [c])).2 ++ ['e'] := by
    rw [List.append_cons, splitLastWord_append _ (by decide)]
  have hoxe : "oxe".toList = "ox".toList ++ ['e'] := rfl
  rw [LosesPlural, hword, hoxe, List.append_cancel_right_eq, or_iff_left]
  rintro ⟨other, hother, -⟩
  exact hc (by simpa using congrArg (·.dropLast.getLast?) hother)

theorem not_losesPlural_of_ne {name : List Char} (hie : ∀ stem, name ≠ stem ++ ['i', 'e'])
    (hxe : ∀ stem, name ≠ stem ++ ['x', 'e']) : ¬ LosesPlural name := by
  rintro (hoxe | ⟨stem, hstem, -⟩)
  · obtain ⟨head, word, rfl, hhead, hmark⟩ := exists_isHead name
    rw [splitLastWord_of_isHead hhead hmark] at hoxe
    apply hxe (head ++ ['o'])
    rw [show word = ['o', 'x', 'e'] from hoxe, List.append_assoc]
    rfl
  · exact hie stem hstem

/-- A singular that ends in `y` has its plural in `ies` back exactly behind a consonant. -/
theorem pluralize_y_iff {stem : List Char} :
    pluralize (.ofList (stem ++ ['y'])) = .ofList (stem ++ ['i', 'e', 's']) ↔
      ¬ ∀ c ∈ stem.getLast?, isVowel c = true := by
  have hy : HasRegularWord (stem ++ ['y']) :=
    hasRegularWord_concat (by decide) fun h => absurd h (by decide)
  have hconsonant : endsInConsonantY (stem ++ ['y']) = true ↔
      ¬ ∀ c ∈ stem.getLast?, isVowel c = true := by
    unfold endsInConsonantY
    induction stem using List.reverseRecOn with
    | nil => simp
    | append_singleton stem c _ => simp
  rw [pluralize_of_regular (by simp) hy, regularPlural, ← hconsonant]
  by_cases h : endsInConsonantY (stem ++ ['y']) = true
  · rw [if_pos h]
    exact iff_of_true (by simp) h
  · rw [if_neg h]
    exact iff_of_false (by simp [endsWith, Text.dropSuffix?, Text.dropPrefix?]) h

/-- A singular that ends in a sibilant has its plural in `es` back unless it is the ox. -/
theorem pluralize_sibilant_iff {stem : List Char} {c : Char} (hc : c ∈ ['s', 'x', 'z']) :
    pluralize (.ofList (stem ++ [c])) = .ofList (stem ++ [c, 'e', 's']) ↔
      (splitLastWord (stem ++ [c])).2 ≠ "ox".toList := by
  by_cases hox : (splitLastWord (stem ++ [c])).2 = "ox".toList
  · obtain ⟨head, word, hstem, hhead, hmark⟩ := exists_isHead (stem ++ [c])
    rw [hstem, splitLastWord_of_isHead hhead hmark] at hox
    obtain rfl : word = "ox".toList := hox
    have hentry : ("ox", "oxen") ∈ irregularPlurals := by decide
    have hoxen := pluralize_of_irregular hhead hentry
    rw [← hstem] at hoxen
    have hoxes : stem ++ [c, 'e', 's'] = head ++ "oxes".toList :=
      calc stem ++ [c, 'e', 's'] = stem ++ [c] ++ ['e', 's'] := (List.append_assoc stem [c] _).symm
        _ = head ++ "ox".toList ++ ['e', 's'] := congrArg (· ++ ['e', 's']) hstem
        _ = head ++ "oxes".toList := List.append_assoc head "ox".toList ['e', 's']
    rw [hoxen, hoxes, hstem, splitLastWord_of_isHead hhead hmark]
    exact iff_of_false (by simp) fun hnot => hnot rfl
  · have hletters : ['s', 'x', 'z'] ⊆ ['s', 'x', 'y', 'z'] := by decide
    have hregular : HasRegularWord (stem ++ [c]) :=
      hasRegularWord_concat (hletters hc) fun _ => hox
    rw [pluralize_of_regular (by simp) hregular]
    refine iff_of_true ?_ hox
    simp only [List.mem_cons, List.not_mem_nil, or_false] at hc
    rcases hc with rfl | rfl | rfl <;>
      simp [regularPlural, endsInConsonantY, endsWith, Text.dropSuffix?, Text.dropPrefix?]

theorem pluralize_regularSingular_iff {name : List Char} (hne : name ≠ [])
    (h : HasRegularWord name) :
    pluralize (.ofList (regularSingular (regularPlural name))) = .ofList (regularPlural name) ↔
      ¬ LosesPlural name := by
  rcases regularSingular_regularPlural name with ⟨stem, rfl, hplural, hsingular⟩ |
    ⟨stem, c, hc, rfl, hplural, hsingular⟩ | ⟨hie, hxe, hsingular⟩
  · rw [hsingular, hplural, losesPlural_ie_iff]
    exact pluralize_y_iff
  · have hi : c ≠ 'i' := by
      rintro rfl
      exact absurd hc (by decide)
    rw [hsingular, hplural, losesPlural_e_iff hi]
    exact pluralize_sibilant_iff hc
  · rw [hsingular, pluralize_of_regular hne h]
    exact iff_of_true rfl (not_losesPlural_of_ne hie hxe)

/-- The plural of the singular of the plural of a name is that plural, unless the name ends in `ie`
with a vowel or nothing in front, or its last word is `oxe`. -/
theorem pluralize_singularize_pluralize_iff (name : String) :
    pluralize (singularize (pluralize name)) = pluralize name ↔ ¬ LosesPlural name.toList := by
  obtain ⟨cs, rfl⟩ : ∃ cs, name = .ofList cs := ⟨name.toList, String.ofList_toList.symm⟩
  rw [String.toList_ofList]
  rcases eq_irregular_or_hasRegularWord cs with
    ⟨head, hhead, entry, hentry, rfl | rfl⟩ | hregular
  · rw [pluralize_of_irregular hhead hentry, singularize_of_irregularPlural hhead hentry,
      pluralize_of_irregular hhead hentry]
    exact iff_of_true rfl (not_losesPlural_of_irregular hhead
      (List.mem_flatMap.mpr ⟨entry, hentry, by simp⟩))
  · rw [pluralize_of_irregularPlural hhead hentry, singularize_of_irregularPlural hhead hentry,
      pluralize_of_irregular hhead hentry]
    exact iff_of_true rfl (not_losesPlural_of_irregular hhead
      (List.mem_flatMap.mpr ⟨entry, hentry, by simp⟩))
  · by_cases hne : cs = []
    · subst hne
      refine iff_of_true (by decide) ?_
      rintro (hoxe | ⟨stem, hstem, -⟩)
      · exact absurd hoxe (by decide)
      · simp at hstem
    · rw [pluralize_of_regular hne hregular,
        singularize_of_regular (hasRegularWord_regularPlural cs)]
      exact pluralize_regularSingular_iff hne hregular

/-- A vowel in front of `ie`, and a word that becomes the ox. -/
theorem pluralize_singularize_louies :
    pluralize (singularize (pluralize "louie")) ≠ pluralize "louie" ∧
      pluralize (singularize (pluralize "oxe")) ≠ pluralize "oxe" := by
  decide

end RelSchema.Naming
