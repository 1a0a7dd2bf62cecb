import RelSchema.Json.Printer
import RelSchema.Json.Reader
import RelSchema.Proofs.Number.Integer
import RelSchema.Proofs.Text.Bytes

/-!
# Texts and integers in JSON

A text between its quotes is read back as it is, whatever it holds: quotes, backslashes and control
characters come back from their escapes, and no character is half of a surrogate pair, so none is
joined with the next one. The decimal numeral of an integer is read back as the integer up to the
place where it ends, unless it has more digits than are read.
-/

namespace RelSchema.Json

open Nat (toDigits)
open Number (digitLimit)

theorem not_isHighSurrogate (c : Char) : isHighSurrogate c.toNat = false := by
  have hrange := (Text.toNat_bounds c).1
  simp only [isHighSurrogate, Bool.and_eq_false_iff, decide_eq_false_iff_not]
  omega

theorem not_isLowSurrogate (c : Char) : isLowSurrogate c.toNat = false := by
  have hrange := (Text.toNat_bounds c).1
  simp only [isLowSurrogate, Bool.and_eq_false_iff, decide_eq_false_iff_not]
  omega

theorem prependCode_toNat (c : Char) (codes : List Nat) (rest : List Char) :
    prependCode c.toNat (codes, rest) = (c.toNat :: codes, rest) := by
  cases codes with
  | nil => rfl
  | cons low codes =>
      rw [prependCode, not_isHighSurrogate, Bool.false_and]
      rfl

theorem textOfCodes_map_toNat (cs : List Char) :
    textOfCodes (cs.map Char.toNat) = .text (.ofList cs) := by
  have hnone : (cs.map Char.toNat).any (fun code => isHighSurrogate code || isLowSurrogate code)
      = false := by
    rw [List.any_eq_false]
    intro code hcode
    obtain ⟨c, -, rfl⟩ := List.mem_map.mp hcode
    simp [not_isHighSurrogate, not_isLowSurrogate]
  rw [textOfCodes, hnone, List.map_map, if_neg Bool.false_ne_true]
  have hid : Char.ofNat ∘ Char.toNat = id := funext Char.ofNat_toNat
  rw [hid, List.map_id]

/-- The four digits behind `\u` spell the control character. -/
theorem exists_hexUnit? {n : Nat} (hn : n < 0x20) : ∃ a b c d : Char,
    Text.hexDigits 4 n = [a, b, c, d] ∧ hexUnit? a b c d = some n := by
  have hall : ∀ n < 0x20, Text.hexDigits 4 n = ['0', '0', Nat.digitChar (n / 16),
      Nat.digitChar (n % 16)] ∧
        hexUnit? '0' '0' (Nat.digitChar (n / 16)) (Nat.digitChar (n % 16)) = some n := by
    decide
  exact ⟨_, _, _, _, hall n hn⟩

theorem readCodes_simple (opened rest : List Char) {mark c : Char} (hu : mark ≠ 'u')
    (hmark : simpleEscape? mark = some c) :
    readCodes opened ('\\' :: mark :: rest)
      = (readCodes opened rest).map (prependCode c.toNat) := by
  rw [readCodes, hmark]
  · exact fun _ _ _ _ _ _ h => absurd h hu
  · exact hu

theorem readCodes_plain (opened rest : List Char) {c : Char} (hquote : c ≠ '"')
    (hbackslash : c ≠ '\\') (hcontrol : 0x20 ≤ c.toNat) :
    readCodes opened (c :: rest) = (readCodes opened rest).map (prependCode c.toNat) := by
  rw [readCodes, if_neg (Nat.not_lt.mpr hcontrol)]
  · exact fun h => absurd h hbackslash
  · exact hquote
  · exact fun _ _ _ _ _ _ h => absurd h hbackslash
  · exact fun _ h => absurd h hbackslash
  · exact fun _ _ h => absurd h hbackslash

theorem readCodes_unicode (opened : List Char) {a b c d next : Char} {unit : Nat}
    (hunit : hexUnit? a b c d = some unit) (rest : List Char) :
    readCodes opened ('\\' :: 'u' :: a :: b :: c :: d :: next :: rest)
      = (readCodes opened (next :: rest)).map (prependCode unit) := by
  rw [readCodes, hunit]

/-- An escaped character is read as the character, whatever follows it. -/
theorem readCodes_escapedChar (opened : List Char) (c next : Char) (rest : List Char) :
    readCodes opened (escapedChar c ++ next :: rest)
      = (readCodes opened (next :: rest)).map (prependCode c.toNat) := by
  unfold escapedChar
  split
  case h_8 hquote hbackslash _ _ _ _ _ =>
    split_ifs with hcontrol
    · obtain ⟨a, b, d, e, hdigits, hunit⟩ := exists_hexUnit? hcontrol
      rw [hdigits]
      exact readCodes_unicode opened hunit rest
    · exact readCodes_plain opened (next :: rest) (by simpa using hquote)
        (by simpa using hbackslash) (Nat.le_of_not_lt hcontrol)
  all_goals exact readCodes_simple opened (next :: rest) (by decide) rfl

theorem readCodes_escaped (opened cs rest : List Char) :
    readCodes opened (cs.flatMap escapedChar ++ '"' :: rest) = .ok (cs.map Char.toNat, rest) := by
  induction cs with
  | nil => rw [List.flatMap_nil, List.nil_append, readCodes, List.map_nil]
  | cons c cs ih =>
      obtain ⟨next, behind, hbehind⟩ : ∃ next behind,
          cs.flatMap escapedChar ++ '"' :: rest = next :: behind :=
        List.exists_cons_of_ne_nil (by simp)
      rw [List.flatMap_cons, List.append_assoc, hbehind, readCodes_escapedChar, ← hbehind, ih]
      exact congrArg Except.ok (prependCode_toNat c _ rest)

theorem readText_renderText (s : String) (rest : List Char) :
    readText (renderText s ++ rest) = .ok (.text s, rest) := by
  have hcodes := readCodes_escaped (renderText s ++ rest) s.toList rest
  have hbehind : (renderText s ++ rest).drop 1 = s.toList.flatMap escapedChar ++ '"' :: rest := by
    rw [renderText, List.cons_append, List.cons_append, List.append_assoc]
    rfl
  rw [readText, hbehind, hcodes]
  exact congrArg (fun value => Except.ok (value, rest))
    ((textOfCodes_map_toNat s.toList).trans (congrArg Data.text String.ofList_toList))

/-- Whether no part of a number can stand at the start of the text. -/
def EndsNumber (rest : List Char) : Prop :=
  ∀ c ∈ rest.head?, c.isDigit = false ∧ c ≠ '.' ∧ c ≠ 'e' ∧ c ≠ 'E'

/-- The sign of an integer and the digits of its magnitude. -/
theorem toList_toString (n : Int) :
    (toString n).toList = (if n < 0 then ['-'] else []) ++ toDigits 10 n.natAbs := by
  rw [Int.toString_eq_repr, Int.repr_eq_if]
  by_cases hn : 0 ≤ n
  · have hsame : n.toNat = n.natAbs := by omega
    rw [if_pos hn, if_neg (by omega), List.nil_append, Nat.repr_eq_ofList_toDigits,
      String.toList_ofList, hsame]
  · have hsame : (-n).toNat = n.natAbs := by omega
    rw [if_neg hn, if_pos (by omega), String.toList_append, Nat.repr_eq_ofList_toDigits,
      String.toList_ofList, String.toList_ofList, hsame]

/-- A numeral of several digits starts with no zero. -/
theorem head?_toDigits {n : Nat} (hn : n ≠ 0) : (toDigits 10 n).head? ≠ some '0' := by
  induction n using Nat.strong_induction_on with
  | _ n ih =>
      rw [Nat.toDigits_eq_if (by decide)]
      split_ifs with hsmall
      · have hdigits : ∀ d < 10, d ≠ 0 → [Nat.digitChar d].head? ≠ some '0' := by decide
        exact hdigits n hsmall hn
      · rw [List.head?_append_of_ne_nil _ Nat.toDigits_ne_nil]
        exact ih (n / 10) (by omega) (by omega)

theorem exists_cons_toDigits (n : Nat) :
    ∃ d more, toDigits 10 n = d :: more ∧ d.isDigit = true := by
  obtain ⟨d, more, hdigits⟩ := List.exists_cons_of_ne_nil (Nat.toDigits_ne_nil (n := n) (b := 10))
  refine ⟨d, more, hdigits, Number.isDigit_of_mem_toDigits (n := n) ?_⟩
  rw [hdigits]
  exact List.mem_cons_self

theorem whole?_toDigits (n : Nat) {rest : List Char} (hrest : EndsNumber rest) :
    whole? (toDigits 10 n ++ rest) = some (toDigits 10 n, rest) := by
  have hdigits : ∀ c ∈ toDigits 10 n, c.isDigit = true := fun c hc =>
    Number.isDigit_of_mem_toDigits hc
  have hend : ∀ c ∈ rest.head?, c.isDigit = false := fun c hc => (hrest c hc).1
  by_cases hn : n = 0
  · subst hn
    rfl
  · have htake := Text.takeWhile_append_eq hdigits hend
    have hdrop := Text.dropWhile_append_eq hdigits hend
    obtain ⟨d, more, hsplit, -⟩ := exists_cons_toDigits n
    have hzero : d ≠ '0' := by
      rintro rfl
      exact head?_toDigits hn (by rw [hsplit]; rfl)
    rw [whole?.eq_def]
    split
    · next heq =>
      rw [hsplit, List.cons_append, List.cons.injEq] at heq
      exact absurd heq.1 hzero
    · rw [htake, hdrop, hsplit]
      rfl

theorem fraction?_of_endsNumber {rest : List Char} (hrest : EndsNumber rest) :
    fraction? rest = none := by
  cases rest with
  | nil => rfl
  | cons c rest =>
      rw [fraction?.eq_def]
      split
      · next heq => exact absurd (List.cons.inj heq).1 (hrest c rfl).2.1
      · rfl

theorem power?_of_endsNumber {rest : List Char} (hrest : EndsNumber rest) : power? rest = none := by
  cases rest with
  | nil => rfl
  | cons c rest =>
      have hmark : (c == 'e' || c == 'E') = false := by
        simpa using ⟨(hrest c rfl).2.2.1, (hrest c rfl).2.2.2⟩
      rw [power?, hmark]
      rfl

theorem readNumber_negative (unsigned : List Char) {whole rest : List Char}
    (hwhole : whole? unsigned = some (whole, rest)) (hrest : EndsNumber rest) :
    readNumber ('-' :: unsigned) = readDigits true whole rest := by
  unfold readNumber
  simp only [hwhole, fraction?_of_endsNumber hrest, power?_of_endsNumber hrest, Option.map_none,
    Option.getD_none, Option.isNone_none, Bool.and_self, if_true]

theorem readNumber_unsigned {unsigned whole rest : List Char} (hsign : unsigned.head? ≠ some '-')
    (hwhole : whole? unsigned = some (whole, rest)) (hrest : EndsNumber rest) :
    readNumber unsigned = readDigits false whole rest := by
  unfold readNumber
  split
  next negative behind heq =>
    split at heq
    · exact absurd rfl hsign
    · cases heq
      simp only [hwhole, fraction?_of_endsNumber hrest, power?_of_endsNumber hrest,
        Option.map_none, Option.getD_none, Option.isNone_none, Bool.and_self, if_true]

theorem readDigits_toDigits (negative : Bool) (n : Nat) (rest : List Char) :
    readDigits negative (toDigits 10 n) rest
      = if (toDigits 10 n).length ≤ digitLimit then
          .ok (.int (if negative = true then -(n : Int) else n), rest)
        else .error ⟨.integer (.oversized (toDigits 10 n).length), rest⟩ := by
  rw [readDigits, Number.readInt_toDigits]
  by_cases hlimit : (toDigits 10 n).length ≤ digitLimit
  · rw [if_pos hlimit, if_pos hlimit]
  · rw [if_neg hlimit, if_neg hlimit]

/-- A numeral is read as its integer, unless it has too many digits. -/
theorem readNumber_toString (n : Int) {rest : List Char} (hrest : EndsNumber rest) :
    readNumber ((toString n).toList ++ rest)
      = if (toDigits 10 n.natAbs).length ≤ digitLimit then .ok (.int n, rest)
        else .error ⟨.integer (.oversized (toDigits 10 n.natAbs).length), rest⟩ := by
  have hwhole := whole?_toDigits n.natAbs hrest
  have hsign : (toDigits 10 n.natAbs ++ rest).head? ≠ some '-' := by
    rw [List.head?_append_of_ne_nil _ Nat.toDigits_ne_nil]
    intro hminus
    exact absurd (Number.isDigit_of_mem_toDigits (List.mem_of_mem_head? hminus)) (by decide)
  rw [toList_toString]
  by_cases hn : n < 0
  · have hsigned : -(n.natAbs : Int) = n := by omega
    rw [if_pos hn, List.cons_append, List.cons_append, List.nil_append,
      readNumber_negative _ hwhole hrest, readDigits_toDigits, if_pos rfl, hsigned]
  · have hsigned : (n.natAbs : Int) = n := by omega
    rw [if_neg hn, List.nil_append, readNumber_unsigned hsign hwhole hrest, readDigits_toDigits,
      if_neg Bool.false_ne_true, hsigned]

theorem readConstant?_toString (n : Int) (rest : List Char) :
    readConstant? ((toString n).toList ++ rest) = none := by
  obtain ⟨d, more, hdigits, hd⟩ := exists_cons_toDigits n.natAbs
  have hne : ∀ c : Char, c.isDigit = false → c ≠ d := fun c hc =>
    (Number.ne_of_isDigit hd hc).symm
  rw [toList_toString, hdigits]
  split_ifs <;> simp [readConstant?, constants, hne]

theorem exists_cons_toString (n : Int) :
    ∃ c cs, (toString n).toList = c :: cs ∧ (c = '-' ∨ c.isDigit = true) := by
  obtain ⟨d, more, hdigits, hd⟩ := exists_cons_toDigits n.natAbs
  rw [toList_toString, hdigits]
  split_ifs
  · exact ⟨'-', _, rfl, Or.inl rfl⟩
  · exact ⟨d, _, rfl, Or.inr hd⟩

theorem ne_of_startsNumber {c d : Char} (hc : c = '-' ∨ c.isDigit = true) (hminus : d ≠ '-')
    (hd : d.isDigit = false) : c ≠ d := by
  rintro rfl
  rcases hc with hc | hc
  · exact hminus hc
  · rw [hd] at hc
    cases hc

theorem readValue_toString (depth fuel : Nat) (n : Int) (rest : List Char) :
    readValue depth (fuel + 1) ((toString n).toList ++ rest)
      = readNumber ((toString n).toList ++ rest) := by
  have hconstant := readConstant?_toString n rest
  obtain ⟨c, cs, hsplit, hc⟩ := exists_cons_toString n
  rw [hsplit, List.cons_append] at hconstant ⊢
  rw [readValue, hconstant]
  · exact fun _ h => ne_of_startsNumber hc (by decide) (by decide) (List.cons.inj h).1
  · exact fun _ h => ne_of_startsNumber hc (by decide) (by decide) (List.cons.inj h).1
  · exact fun _ h => ne_of_startsNumber hc (by decide) (by decide) (List.cons.inj h).1

end RelSchema.Json
