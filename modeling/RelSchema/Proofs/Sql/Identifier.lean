import RelSchema.Proofs.Sql.Token

/-!
# Quoted identifiers as tokens

A quoted text in front of another one is a token of its own, and the other text has the tokens that
it has alone, further on. Only a quote of the same kind right behind the closing one changes this:
the two count as one quote of the content, and the run goes on. Main statement: a quoted identifier
is read back with its name, exactly if no further quote follows.
-/

namespace RelSchema.Sql

open Pending

section Enclosed

variable {quote : Char} (hquote : isQuote quote = true) (s : List Char)

include hquote

theorem tokenize_enclosed_append {rest : List Char} (hend : ∀ c ∈ rest.head?, c ≠ quote) :
    tokenize (Naming.enclosed quote s ++ rest)
      = runToken quote 0 s.reverse (Naming.enclosed quote s).length
        :: (tokenize rest).map (Token.shift (Naming.enclosed quote s).length) := by
  calc tokenize (Naming.enclosed quote s ++ rest)
      = runToken quote 0 s.reverse (0 + (Naming.enclosed quote s).length)
          :: tokensFrom (0 + (Naming.enclosed quote s).length) .nothing rest :=
        tokensFrom_enclosed hquote s hend 0
    _ = runToken quote 0 s.reverse (Naming.enclosed quote s).length
          :: (tokenize rest).map (Token.shift (Naming.enclosed quote s).length) := by
        rw [Nat.zero_add, tokensFrom_eq_map_shift]

/-- A run goes on behind a doubled quote, so its token has more content. -/
theorem exists_tokenize_enclosed_append_quote (rest : List Char) :
    ∃ more stop tokens, tokenize (Naming.enclosed quote s ++ quote :: rest)
      = runToken quote 0 (more ++ quote :: s.reverse) stop :: tokens := by
  have hopen : ∀ text, tokenize (quote :: text) = tokensFrom 1 (.run quote 0 []) text := by
    intro text
    simp [tokenize, tokensFrom, Pending.read, readCode, hquote, Pending.tokens]
  have hdoubled : Naming.enclosed quote s ++ quote :: rest
      = quote :: (Naming.doubled quote (s ++ [quote]) ++ rest) := by
    rw [doubled_append, doubled_cons_self]
    simp [Naming.enclosed, Naming.doubled]
  have hreverse : (s ++ [quote]).reverse ++ [] = quote :: s.reverse := by simp
  rw [hdoubled, hopen, tokensFrom_doubled, hreverse]
  obtain ⟨body, ⟨-, htokens⟩ | ⟨behind, -, -, htokens⟩⟩ := exists_doubled_of_run quote 0
    (quote :: s.reverse) rest (1 + (Naming.doubled quote (s ++ [quote])).length)
  · exact ⟨_, _, _, htokens⟩
  · exact ⟨_, _, _, htokens⟩

end Enclosed

theorem isQuote_quoteChar (dialect : Dialect) : isQuote dialect.quoteChar = true := by
  cases dialect <;> decide

theorem runToken_quoteChar (dialect : Dialect) (name : List Char) (start stop : Nat) :
    runToken dialect.quoteChar start name.reverse stop = {
      kind := .quotedName
      value := .ofList name
      quote := some dialect.quoteChar
      start
      stop } := by
  rw [runToken, List.reverse_reverse]
  cases dialect <;> rfl

/-- A quoted identifier is one token with its name, in front of the tokens of what follows, exactly
if what follows does not start with its quote. -/
theorem tokenize_quoteIdentifier_iff (dialect : Dialect) (name rest : String) :
    tokenize (Naming.quoteIdentifier dialect name ++ rest).toList = {
          kind := .quotedName
          value := name
          quote := some dialect.quoteChar
          start := 0
          stop := (Naming.quoteIdentifier dialect name).length }
        :: (tokenize rest.toList).map
            (Token.shift (Naming.quoteIdentifier dialect name).length) ↔
      rest.toList.head? ≠ some dialect.quoteChar := by
  have hquote := isQuote_quoteChar dialect
  have htext : (Naming.quoteIdentifier dialect name ++ rest).toList
      = Naming.enclosed dialect.quoteChar name.toList ++ rest.toList := by
    rw [String.toList_append, Naming.quoteIdentifier, String.toList_ofList]
  have hlength : (Naming.quoteIdentifier dialect name).length
      = (Naming.enclosed dialect.quoteChar name.toList).length := by
    rw [Naming.quoteIdentifier, String.length_ofList]
  rw [htext, hlength]
  constructor
  · intro htokens hhead
    obtain ⟨behind, hrest⟩ : ∃ behind, rest.toList = dialect.quoteChar :: behind :=
      List.head?_eq_some_iff.mp hhead
    obtain ⟨more, stop, tokens, hlonger⟩ :=
      exists_tokenize_enclosed_append_quote hquote name.toList behind
    -- the value of the longer run has a quote more than the name has characters
    rw [hrest, hlonger] at htokens
    have hvalue := congrArg Token.value (List.head_eq_of_cons_eq htokens)
    have hname := congrArg String.length hvalue
    simp only [runToken, String.length_ofList, List.length_reverse, List.length_append,
      List.length_cons, String.length_toList] at hname
    omega
  · intro hhead
    have hend : ∀ c ∈ rest.toList.head?, c ≠ dialect.quoteChar := by
      rintro c hc rfl
      exact hhead hc
    rw [tokenize_enclosed_append hquote name.toList hend, runToken_quoteChar, String.ofList_toList]

end RelSchema.Sql
