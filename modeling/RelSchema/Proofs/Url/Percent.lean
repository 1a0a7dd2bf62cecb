import RelSchema.Proofs.Text.Bytes
import RelSchema.Url.Basic

/-!
# Percent-encoding

What a text is encoded to holds unreserved characters and percent signs only, so no mark of an
address stands in it, and it is decoded to the text, whatever the text holds: percent signs,
placeholders and characters of several bytes included.
-/

namespace RelSchema.Percent

theorem hexValue?_hexDigit {n : Nat} (hn : n < 16) : Number.hexValue? (hexDigit n) = some n := by
  have hall : ∀ n < 16, Number.hexValue? (hexDigit n) = some n := by decide
  exact hall n hn

theorem isUnreserved_hexDigit {n : Nat} (hn : n < 16) : isUnreserved (hexDigit n) = true := by
  have hall : ∀ n < 16, isUnreserved (hexDigit n) = true := by decide
  exact hall n hn

theorem byte?_hexDigit {byte : Nat} (hbyte : byte < 256) :
    byte? (hexDigit (byte / 16)) (hexDigit (byte % 16)) = some byte := by
  have hdigits : byte / 16 * 16 + byte % 16 = byte := by omega
  rw [byte?, hexValue?_hexDigit (by omega), hexValue?_hexDigit (Nat.mod_lt _ (by decide))]
  exact congrArg some hdigits

theorem bytes_cons_of_ne {c : Char} (hc : c ≠ '%') (rest : List Char) :
    bytes (c :: rest) = Text.utf8 c ++ bytes rest := by
  rw [bytes]
  exact fun _ _ _ h => absurd h hc

theorem bytes_encodeByte {byte : Nat} (hbyte : byte < 256) (rest : List Char) :
    bytes (encodeByte byte ++ rest) = byte :: bytes rest := by
  rw [encodeByte, List.cons_append, List.cons_append, List.singleton_append, bytes,
    byte?_hexDigit hbyte]

theorem bytes_flatMap_encodeByte {codes : List Nat} (hcodes : ∀ byte ∈ codes, byte < 256)
    (rest : List Char) : bytes (codes.flatMap encodeByte ++ rest) = codes ++ bytes rest := by
  induction codes with
  | nil => rfl
  | cons byte codes ih =>
      obtain ⟨hbyte, hcodes⟩ := List.forall_mem_cons.mp hcodes
      rw [List.flatMap_cons, List.append_assoc, bytes_encodeByte hbyte, ih hcodes]
      rfl

theorem bytes_encodeChar (c : Char) (rest : List Char) :
    bytes (encodeChar c ++ rest) = Text.utf8 c ++ bytes rest := by
  unfold encodeChar
  split_ifs with hc
  · refine bytes_cons_of_ne ?_ rest
    rintro rfl
    exact absurd hc (by decide)
  · exact bytes_flatMap_encodeByte (fun _ => Text.lt_of_mem_utf8) rest

theorem bytes_encode (s : List Char) : bytes (encode s) = s.flatMap Text.utf8 := by
  unfold encode
  induction s with
  | nil => rfl
  | cons c s ih => rw [List.flatMap_cons, bytes_encodeChar, ih, List.flatMap_cons]

theorem bytes_of_not_mem {s : List Char} (hs : '%' ∉ s) : bytes s = s.flatMap Text.utf8 := by
  induction s with
  | nil => rfl
  | cons c s ih =>
      obtain ⟨hc, hs⟩ := not_or.mp (mt List.mem_cons.mpr hs)
      rw [bytes_cons_of_ne (Ne.symm hc), ih hs, List.flatMap_cons]

theorem decode_encode (s : List Char) : decode (encode s) = s := by
  rw [decode, bytes_encode, Text.ofUtf8_flatMap_utf8]

theorem decode_of_not_mem {s : List Char} (hs : '%' ∉ s) : decode s = s := by
  rw [decode, bytes_of_not_mem hs, Text.ofUtf8_flatMap_utf8]

/-- An encoded text holds unreserved characters and percent signs only. -/
theorem isUnreserved_of_mem_encode {s : List Char} {c : Char} (hc : c ∈ encode s) :
    isUnreserved c = true ∨ c = '%' := by
  obtain ⟨d, -, hd⟩ := List.mem_flatMap.mp hc
  unfold encodeChar at hd
  split_ifs at hd with hplain
  · obtain rfl := List.mem_singleton.mp hd
    exact Or.inl hplain
  · obtain ⟨byte, hbyte, hbyteChar⟩ := List.mem_flatMap.mp hd
    have hlt := Text.lt_of_mem_utf8 hbyte
    simp only [encodeByte, List.mem_cons, List.not_mem_nil, or_false] at hbyteChar
    rcases hbyteChar with rfl | rfl | rfl
    · exact Or.inr rfl
    · exact Or.inl (isUnreserved_hexDigit (by omega))
    · exact Or.inl (isUnreserved_hexDigit (Nat.mod_lt _ (by decide)))

theorem not_mem_encode {mark : Char} (hreserved : isUnreserved mark = false) (hpercent : mark ≠ '%')
    (s : List Char) : mark ∉ encode s := by
  intro hmem
  rcases isUnreserved_of_mem_encode hmem with hplain | hmark
  · rw [hreserved] at hplain
    cases hplain
  · exact hpercent hmark

end RelSchema.Percent
