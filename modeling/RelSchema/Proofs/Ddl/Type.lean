import RelSchema.Ddl.Column
import RelSchema.Proofs.Ddl.Token

/-!
# The end of a type

Behind the word of a type its text goes on with balanced texts in parentheses and with the phrases
that belong to it. `TypeTail` is the grammar of such texts. It is independent of where the type
stands, so a type that is read at one place is read at every other one whose continuation is no
part of a type.
-/

namespace RelSchema.Ddl

open Sql (Token Balanced isWordPart)
open Sql.Pending (wordToken)

theorem head?_append_of {p : Char → Prop} {a b : List Char} (ha : ∀ c ∈ a.head?, p c)
    (hb : ∀ c ∈ b.head?, p c) : ∀ c ∈ (a ++ b).head?, p c := by
  cases a with
  | nil => exact hb
  | cons c a => exact ha

theorem mem_head?_append {c : Char} {a : List Char} (hc : c ∈ a.head?) (b : List Char) :
    c ∈ (a ++ b).head? := by
  cases a with
  | nil => cases hc
  | cons d a => exact hc

theorem value_wordToken (start : Nat) (w : List Char) (stop : Nat) :
    (wordToken start w.reverse stop).value = .ofList w := by
  rw [wordToken, List.reverse_reverse]

theorem isKeyword_wordToken {start : Nat} {w : List Char} {stop : Nat} {words : List String} :
    (wordToken start w.reverse stop).isKeyword words = words.contains (Text.upper (.ofList w)) := by
  rw [Token.isKeyword, Token.upper, value_wordToken]
  rfl

/-- The text spells the keywords in some case. -/
inductive Spells : List String → List Char → Prop
  | nil : Spells [] []
  | cons {word : String} {words : List String} {gap w text : List Char}
      (hgap : ∀ c ∈ gap, Text.isSeparator c = true) (hne : w ≠ [])
      (hw : ∀ c ∈ w, isWordPart c = true) (hupper : Text.upper (.ofList w) = word)
      (hend : ∀ c ∈ text.head?, isWordPart c = false) (htext : Spells words text) :
      Spells (word :: words) (gap ++ (w ++ text))

/-- The tokens of a spelling are the keywords. -/
theorem Spells.exists_tokens {words : List String} {text : List Char} (h : Spells words text)
    (dialect : Dialect) (position : Nat) {rest : List Char}
    (hrest : ∀ c ∈ rest.head?, isWordPart c = false) :
    ∃ tokens, tokensAt dialect position (text ++ rest)
        = tokens ++ tokensAt dialect (position + text.length) rest ∧
      tokens.length = words.length ∧ (∀ more, startsWith words (tokens ++ more) = true) ∧
      ∀ last ∈ tokens.getLast?, last.stop = position + text.length := by
  induction h generalizing position with
  | nil => exact ⟨[], rfl, rfl, fun _ => rfl, by simp⟩
  | @cons word words gap w text hgap hne hw hupper hend htext ih =>
      obtain ⟨tokens, htokens, hlength, hstarts, hlast⟩ := ih (position + gap.length + w.length)
      refine ⟨wordToken (position + gap.length) w.reverse (position + gap.length + w.length)
        :: tokens, ?_, ?_, ?_, ?_⟩
      · rw [List.append_assoc, tokensAt_gap dialect position hgap, List.append_assoc,
          tokensAt_word dialect _ hne hw (head?_append_of hend hrest), htokens]
        simp only [List.cons_append, List.length_append, Nat.add_assoc]
      · simp [hlength]
      · intro more
        rw [List.cons_append, startsWith, isKeyword_wordToken, hupper, hstarts]
        simp
      · intro last hmem
        simp only [List.length_append]
        cases htoks : tokens.getLast? with
        | none =>
            obtain rfl : tokens = [] := List.getLast?_eq_none_iff.mp htoks
            cases htext with
            | nil =>
                cases hmem
                simp [wordToken, Nat.add_assoc]
            | cons => cases hlength
        | some found =>
            have hfound : last = found := by
              rw [List.getLast?_cons, htoks] at hmem
              simpa using hmem.symm
            rw [hfound, hlast found htoks]
            simp [Nat.add_assoc]

/-- Keywords among the tokens of a text are spelled in front of it. -/
theorem exists_spells_of_startsWith {dialect : Dialect} {words : List String} {position : Nat}
    {s : List Char} (h : startsWith words (tokensAt dialect position s) = true) :
    ∃ text rest, s = text ++ rest ∧ Spells words text ∧
      (words ≠ [] → ∀ c ∈ rest.head?, isWordPart c = false) := by
  induction words generalizing position s with
  | nil => exact ⟨[], s, rfl, .nil, fun h => absurd rfl h⟩
  | cons word words ih =>
      cases htokens : Sql.tokensFrom position .nothing s with
      | nil =>
          rw [tokensAt, htokens] at h
          cases h
      | cons token tokens =>
          obtain ⟨gap, lexeme, rest, rfl, hgap, hlexeme, hstart, hstop, hrest⟩ :=
            Sql.exists_lexeme htokens
          rw [tokensAt, htokens, List.map_cons, startsWith, Bool.and_eq_true, ← hrest] at h
          obtain ⟨hkeyword, hwords⟩ := h
          have hkind : token.kind = .word := by
            rw [← kind_readToken_iff dialect (by decide) (by decide)]
            simpa using (Bool.and_eq_true_iff.mp hkeyword).1
          obtain ⟨hne, hw, hend, start, rfl⟩ := hlexeme.of_kind hkind
          obtain ⟨text, rest', rfl, hspells, hrest'⟩ := ih hwords
          rw [readToken_wordToken, isKeyword_wordToken] at hkeyword
          obtain rfl : Text.upper (.ofList lexeme) = word := by simpa using hkeyword
          refine ⟨gap ++ (lexeme ++ text), rest', by simp, ?_, fun _ => ?_⟩
          · exact .cons hgap hne hw rfl (fun c hc => hend c (mem_head?_append hc _)) hspells
          · cases words with
            | nil =>
                cases hspells
                exact hend
            | cons => exact hrest' (List.cons_ne_nil _ _)

/-- The texts behind the first word of a type that belong to it. -/
inductive TypeTail : List Char → Prop
  | nil : TypeTail []
  | group {gap inner tail : List Char} (hgap : ∀ c ∈ gap, Text.isSeparator c = true)
      (hinner : Balanced inner) (htail : TypeTail tail) :
      TypeTail (gap ++ ('(' :: inner ++ ')' :: tail))
  | phrase {words : List String} {text tail : List Char} (hwords : words ∈ typeSuffixes)
      (htext : Spells words text) (hend : ∀ c ∈ tail.head?, isWordPart c = false)
      (htail : TypeTail tail) : TypeTail (text ++ tail)

def EndsType (dialect : Dialect) (rest : List Char) : Prop :=
  (∀ c ∈ rest.head?, isWordPart c = false) ∧
    ∀ position, Sql.group? (tokensAt dialect position rest) = none ∧
      suffixLength (tokensAt dialect position rest) = 0

theorem head?_eq_of_startsWith {word : String} {words : List String} {tokens : List Token}
    (h : startsWith (word :: words) tokens = true) :
    tokens.head?.map (·.upper) = some word := by
  cases tokens with
  | nil => cases h
  | cons token tokens =>
      rw [startsWith, Bool.and_eq_true] at h
      have hupper := (Bool.and_eq_true_iff.mp h.1).2
      simpa using hupper

/-- At most one of the phrases stands in front of the tokens: they differ in their first words. -/
theorem suffix_unique {first second : List String} {tokens : List Token}
    (hfirst : first ∈ typeSuffixes) (hsecond : second ∈ typeSuffixes)
    (hstarts : startsWith first tokens = true) (hstarts' : startsWith second tokens = true) :
    first = second := by
  have hheads : ∀ a ∈ typeSuffixes, ∀ b ∈ typeSuffixes, a.head? = b.head? → a = b := by decide
  have hne : ∀ a ∈ typeSuffixes, a ≠ [] := by decide
  refine hheads first hfirst second hsecond ?_
  cases first with
  | nil => exact absurd rfl (hne _ hfirst)
  | cons word words =>
      cases second with
      | nil => exact absurd rfl (hne _ hsecond)
      | cons word' words' =>
          have hhead := head?_eq_of_startsWith hstarts
          rw [head?_eq_of_startsWith hstarts'] at hhead
          exact hhead.symm

theorem suffixLength_of_startsWith {words : List String} {tokens : List Token}
    (hwords : words ∈ typeSuffixes) (hstarts : startsWith words tokens = true) :
    suffixLength tokens = words.length := by
  rw [suffixLength]
  cases hfind : typeSuffixes.find? fun suffix => startsWith suffix tokens with
  | none => exact absurd hstarts (List.find?_eq_none.mp hfind words hwords)
  | some found =>
      obtain rfl := suffix_unique (List.mem_of_find?_eq_some hfind) hwords
        (List.find?_some (p := fun suffix => startsWith suffix tokens) hfind) hstarts
      rfl

theorem exists_of_suffixLength_ne_zero {tokens : List Token} (h : suffixLength tokens ≠ 0) :
    ∃ words ∈ typeSuffixes, startsWith words tokens = true ∧
      suffixLength tokens = words.length := by
  cases hfind : typeSuffixes.find? fun suffix => startsWith suffix tokens with
  | none =>
      rw [suffixLength, hfind] at h
      exact absurd rfl h
  | some words =>
      have hwords := List.mem_of_find?_eq_some hfind
      have hstarts : startsWith words tokens = true :=
        List.find?_some (p := fun suffix => startsWith suffix tokens) hfind
      exact ⟨words, hwords, hstarts, suffixLength_of_startsWith hwords hstarts⟩

/-- No phrase stands in front of tokens whose first one is no first word of a phrase. -/
theorem suffixLength_eq_zero {token : Token}
    (h : ∀ suffix ∈ typeSuffixes, suffix.head? ≠ some token.upper) (tokens : List Token) :
    suffixLength (token :: tokens) = 0 := by
  by_contra hne
  obtain ⟨words, hwords, hstarts, -⟩ := exists_of_suffixLength_ne_zero hne
  cases words with
  | nil => exact absurd hwords (by decide)
  | cons word words => exact h _ hwords (head?_eq_of_startsWith hstarts).symm

theorem group?_of_startsWith {words : List String} {tokens : List Token} (hne : words ≠ [])
    (hstarts : startsWith words tokens = true) : Sql.group? tokens = none := by
  cases words with
  | nil => exact absurd rfl hne
  | cons word words =>
      cases tokens with
      | nil => cases hstarts
      | cons token tokens =>
          rw [startsWith, Bool.and_eq_true] at hstarts
          have hkind : token.kind = .word := by
            simpa using (Bool.and_eq_true_iff.mp hstarts.1).1
          exact Sql.group?_other (by rw [hkind]; decide) tokens

theorem typeEnd_of_group {tokens : List Token} {group : Sql.Group}
    (hgroup : Sql.group? tokens = some group) (stop : Nat) :
    typeEnd stop tokens = typeEnd group.close.stop group.rest := by
  rw [typeEnd]
  split
  · next found hfound =>
    rw [hgroup] at hfound
    rw [Option.some.inj hfound]
  · next hnone =>
    rw [hgroup] at hnone
    cases hnone

theorem typeEnd_of_end {tokens : List Token} (hgroup : Sql.group? tokens = none)
    (hend : suffixLength tokens = 0 ∨ tokens = []) (stop : Nat) :
    typeEnd stop tokens = (stop, tokens) := by
  rw [typeEnd]
  split
  · next found hfound =>
    rw [hgroup] at hfound
    cases hfound
  · rw [if_pos hend]

theorem typeEnd_of_suffix {tokens : List Token} (hgroup : Sql.group? tokens = none)
    (hmore : ¬(suffixLength tokens = 0 ∨ tokens = [])) (stop : Nat) :
    typeEnd stop tokens
      = typeEnd (((tokens.take (suffixLength tokens)).getLast?.map (·.stop)).getD stop)
          (tokens.drop (suffixLength tokens)) := by
  rw [typeEnd]
  split
  · next found hfound =>
    rw [hgroup] at hfound
    cases hfound
  · rw [if_neg hmore]

/-- A type is read up to the end of its tail. -/
theorem TypeTail.typeEnd_eq {tail : List Char} (h : TypeTail tail) {dialect : Dialect}
    {rest : List Char} (hrest : EndsType dialect rest) (position : Nat) :
    typeEnd position (tokensAt dialect position (tail ++ rest))
      = (position + tail.length, tokensAt dialect (position + tail.length) rest) := by
  induction h generalizing position with
  | nil =>
      obtain ⟨hgroup, hsuffix⟩ := hrest.2 position
      rw [List.nil_append, typeEnd_of_end hgroup (Or.inl hsuffix)]
      rfl
  | @group gap inner tail hgap hinner htail ih =>
      obtain ⟨group, hgroup, hstop, hafter⟩ :=
        group?_tokensAt dialect position hgap hinner (tail ++ rest)
      have htext : gap ++ ('(' :: inner ++ ')' :: tail) ++ rest
          = gap ++ ('(' :: inner ++ ')' :: (tail ++ rest)) := by simp
      have hlength : group.close.stop + tail.length
          = position + (gap ++ ('(' :: inner ++ ')' :: tail)).length := by
        rw [hstop]
        simp only [List.length_append, List.length_cons, List.length_nil]
        omega
      rw [htext, typeEnd_of_group hgroup, hafter, ih, hlength]
  | @phrase words text tail hwords htext hend htail ih =>
      obtain ⟨tokens, htokens, hlength, hstarts, hlast⟩ :=
        htext.exists_tokens dialect position (head?_append_of hend hrest.1)
      have hne : words ≠ [] := by
        rintro rfl
        exact absurd hwords (by decide)
      have hstarts' := hstarts (tokensAt dialect (position + text.length) (tail ++ rest))
      have hsuffix := suffixLength_of_startsWith hwords hstarts'
      have hpos : 0 < words.length := List.length_pos_iff.mpr hne
      have hgetLast : (tokens.getLast?.map (·.stop)).getD position = position + text.length := by
        cases hlast? : tokens.getLast? with
        | none =>
            obtain rfl : tokens = [] := List.getLast?_eq_none_iff.mp hlast?
            simp at hlength
            omega
        | some last => exact hlast last hlast?
      have hmore : ¬(suffixLength (tokens ++ tokensAt dialect (position + text.length)
          (tail ++ rest)) = 0 ∨ tokens ++ tokensAt dialect (position + text.length)
          (tail ++ rest) = []) := by
        rintro (hzero | hnil)
        · omega
        · rw [List.append_eq_nil_iff] at hnil
          rw [hnil.1] at hlength
          simp at hlength
          omega
      rw [List.append_assoc, htokens, typeEnd_of_suffix (group?_of_startsWith hne hstarts') hmore,
        hsuffix, ← hlength, List.take_left, List.drop_left, hgetLast, ih, List.length_append,
        Nat.add_assoc]

/-- What is read as the end of a type is a tail. -/
theorem exists_typeTail {dialect : Dialect} {position stop : Nat} {s : List Char}
    {tokens : List Token} (h : typeEnd position (tokensAt dialect position s) = (stop, tokens)) :
    ∃ tail rest, s = tail ++ rest ∧ TypeTail tail ∧ stop = position + tail.length ∧
      tokens = tokensAt dialect stop rest := by
  generalize htokens : tokensAt dialect position s = all at h
  induction position, all using typeEnd.induct generalizing s with
  | case1 position all group hgroup ih =>
      subst htokens
      obtain ⟨gap, inner, rest, rfl, hgap, hinner, hstop, hafter⟩ :=
        exists_of_group?_tokensAt hgroup
      rw [typeEnd_of_group hgroup] at h
      obtain ⟨tail, rest', rfl, htail, hstop', htokens'⟩ := ih hafter.symm h
      refine ⟨gap ++ ('(' :: inner ++ ')' :: tail), rest', by simp, .group hgap hinner htail, ?_,
        htokens'⟩
      rw [hstop', hstop]
      simp only [List.length_append, List.length_cons, List.length_nil]
      omega
  | case2 position all hgroup hnone =>
      subst htokens
      rw [typeEnd_of_end hgroup hnone] at h
      cases h
      exact ⟨[], s, rfl, .nil, rfl, rfl⟩
  | case3 position all hgroup hsome last =>
      rename_i ih
      subst htokens
      rw [not_or] at hsome
      obtain ⟨words, hwords, hstarts, hlength⟩ := exists_of_suffixLength_ne_zero hsome.1
      have hne : words ≠ [] := by
        rintro rfl
        exact absurd hwords (by decide)
      obtain ⟨text, rest, rfl, hspells, hrest⟩ := exists_spells_of_startsWith hstarts
      obtain ⟨spelled, hspelled, hcount, -, hlast⟩ :=
        hspells.exists_tokens dialect position (hrest hne)
      have hgetLast : (spelled.getLast?.map (·.stop)).getD position = position + text.length := by
        cases hlast? : spelled.getLast? with
        | none =>
            obtain rfl : spelled = [] := List.getLast?_eq_none_iff.mp hlast?
            exact absurd hcount.symm (by simpa using hne)
        | some found => exact hlast found hlast?
      rw [typeEnd_of_suffix hgroup (by rwa [not_or])] at h
      have hlast' : last = position + text.length := by
        rw [← hgetLast]
        simp only [last]
        rw [hlength, hspelled, ← hcount, List.take_left]
      change typeEnd last _ = _ at h
      clear_value last
      subst hlast'
      rw [hlength, hspelled, ← hcount, List.drop_left] at h ih
      obtain ⟨tail, rest', rfl, htail, hstop, htokens⟩ := ih rfl h
      refine ⟨text ++ tail, rest', by simp, .phrase hwords hspells ?_ htail, ?_, htokens⟩
      · intro c hc
        exact hrest hne c (mem_head?_append hc _)
      · rw [hstop, List.length_append, Nat.add_assoc]

end RelSchema.Ddl
