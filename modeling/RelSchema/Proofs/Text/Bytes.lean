import Mathlib.Tactic.Common
import Mathlib.Tactic.IntervalCases
import RelSchema.Text.Bytes

/-!
# Texts as bytes

The bytes of a character are read back as the character, whatever follows them: its first byte tells
how many others belong to it and in what range the second one lies, and no character lies where that
range leaves a gap. So the bytes of a text are read back as the text.
-/

namespace RelSchema.Text

/-- No code point lies in the range of the surrogates or behind the last plane. -/
theorem toNat_bounds (c : Char) : (c.toNat < 0xd800 ∨ 0xe000 ≤ c.toNat) ∧ c.toNat < 0x110000 := by
  have hvalid : c.toNat < 0xd800 ∨ 0xdfff < c.toNat ∧ c.toNat < 0x110000 := c.valid
  omega

theorem ofUtf8After_last {start : Utf8Start} {byte : Nat} (hmissing : start.missing = 1)
    (hleast : start.least ≤ byte) (hgreatest : byte ≤ start.greatest) (bytes : List Nat) :
    ofUtf8After (some start) (byte :: bytes)
      = Char.ofNat (start.value * 64 + (byte - 0x80)) :: ofUtf8After none bytes := by
  simp [ofUtf8After, utf8Next, hmissing, hleast, hgreatest]

/-- A byte inside a character goes to its number; the bytes behind it may be any inner ones. -/
theorem ofUtf8After_inner {start : Utf8Start} {byte missing : Nat}
    (hmissing : start.missing = missing + 2) (hleast : start.least ≤ byte)
    (hgreatest : byte ≤ start.greatest) (bytes : List Nat) :
    ofUtf8After (some start) (byte :: bytes)
      = ofUtf8After
          (some { value := start.value * 64 + (byte - 0x80), missing := missing + 1 }) bytes := by
  simp [ofUtf8After, utf8Next, hmissing, hleast, hgreatest]

theorem ofUtf8After_first {byte : Nat} {start : Utf8Start}
    (hfirst : utf8First byte = ([], some start)) (bytes : List Nat) :
    ofUtf8After none (byte :: bytes) = ofUtf8After (some start) bytes := by
  rw [ofUtf8After, utf8Next, hfirst]
  rfl

theorem utf8First_two {n : Nat} (hlow : 2 ≤ n) (hhigh : n < 32) :
    utf8First (0xc0 + n) = ([], some { value := n, missing := 1 }) := by
  interval_cases n <;> rfl

/-- The first byte of three. The second one keeps out what two bytes spell, and the surrogates. -/
theorem utf8First_three {n : Nat} (hn : n < 16) :
    utf8First (0xe0 + n) = ([], some {
      value := n
      missing := 2
      least := if n = 0 then 0xa0 else 0x80
      greatest := if n = 13 then 0x9f else 0xbf }) := by
  interval_cases n <;> rfl

/-- The first byte of four. The second one keeps out what three bytes spell, and what lies behind
the last plane. -/
theorem utf8First_four {n : Nat} (hn : n < 5) :
    utf8First (0xf0 + n) = ([], some {
      value := n
      missing := 3
      least := if n = 0 then 0x90 else 0x80
      greatest := if n = 4 then 0x8f else 0xbf }) := by
  interval_cases n <;> rfl

/-- The bytes of a character are read as the character. -/
theorem ofUtf8After_utf8 (c : Char) (bytes : List Nat) :
    ofUtf8After none (utf8 c ++ bytes) = c :: ofUtf8After none bytes := by
  obtain ⟨hgap, hlast⟩ := toNat_bounds c
  -- Behind the last byte the number is that of the character again.
  have hend : ∀ {n : Nat}, n = c.toNat →
      Char.ofNat n :: ofUtf8After none bytes = c :: ofUtf8After none bytes := by
    rintro n rfl
    rw [Char.ofNat_toNat]
  unfold utf8
  generalize hn : c.toNat = n at hgap hlast hend
  dsimp only
  split_ifs with hone htwo hthree
  · rw [List.singleton_append, ofUtf8After, utf8Next, utf8First, if_pos hone]
    exact hend rfl
  · rw [List.cons_append, List.singleton_append,
      ofUtf8After_first (utf8First_two (by omega) (by omega)),
      ofUtf8After_last rfl (Nat.le_add_right _ _) (by dsimp only; omega)]
    exact hend (by dsimp only; omega)
  · rw [List.cons_append, List.cons_append, List.singleton_append,
      ofUtf8After_first (utf8First_three (by omega)),
      ofUtf8After_inner rfl (by dsimp only; split_ifs <;> omega) (by dsimp only; split_ifs <;> omega),
      ofUtf8After_last rfl (Nat.le_add_right _ _) (by dsimp only; omega)]
    exact hend (by dsimp only; omega)
  · rw [List.cons_append, List.cons_append, List.cons_append, List.singleton_append,
      ofUtf8After_first (utf8First_four (by omega)),
      ofUtf8After_inner rfl (by dsimp only; split_ifs <;> omega) (by dsimp only; split_ifs <;> omega),
      ofUtf8After_inner rfl (Nat.le_add_right _ _) (by dsimp only; omega),
      ofUtf8After_last rfl (Nat.le_add_right _ _) (by dsimp only; omega)]
    exact hend (by dsimp only; omega)

/-- The bytes of a text are read as the text. -/
theorem ofUtf8_flatMap_utf8 (s : List Char) : ofUtf8 (s.flatMap utf8) = s := by
  unfold ofUtf8
  induction s with
  | nil => rfl
  | cons c s ih => rw [List.flatMap_cons, ofUtf8After_utf8, ih]

/-- A character is written in bytes. -/
theorem lt_of_mem_utf8 {c : Char} {byte : Nat} (hbyte : byte ∈ utf8 c) : byte < 256 := by
  have hlast := (toNat_bounds c).2
  unfold utf8 at hbyte
  generalize c.toNat = n at hbyte hlast
  dsimp only at hbyte
  split_ifs at hbyte <;>
    simp only [List.mem_cons, List.not_mem_nil, or_false] at hbyte <;>
    omega

end RelSchema.Text
