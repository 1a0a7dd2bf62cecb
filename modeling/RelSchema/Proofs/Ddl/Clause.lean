import RelSchema.Ddl.Render
import RelSchema.Ddl.Script
import RelSchema.Proofs.Ddl.Type

/-!
# The clause of a column

A clause names a column, gives its type, and goes on with modifiers: what it says about keys and
absent values, and possibly a default. Its reading is computed from these parts. The text of the
default may be any text with a token; only what is read from that text itself enters the column.
-/

namespace RelSchema.Ddl

open Sql (Token isWordPart)
open Sql.Pending (wordToken runToken)

/-- The bare words among the tokens, in upper case. -/
def bareWords (tokens : List Token) : List String :=
  (tokens.filter (·.kind == .word)).map (·.upper)

theorem bareWords_append (a b : List Token) : bareWords (a ++ b) = bareWords a ++ bareWords b := by
  rw [bareWords, List.filter_append, List.map_append]
  rfl

theorem bareWords_cons_of_word {token : Token} (hword : token.kind = .word) (tokens : List Token) :
    bareWords (token :: tokens) = token.upper :: bareWords tokens := by
  rw [bareWords, List.filter_cons_of_pos (by simp [hword])]
  rfl

theorem bareWords_cons_of_ne {token : Token} (hword : token.kind ≠ .word) (tokens : List Token) :
    bareWords (token :: tokens) = bareWords tokens := by
  rw [bareWords, List.filter_cons_of_neg (by simp [hword])]
  rfl

theorem bareWords_map {f : Token → Token} (hf : Token.Keeps f) (tokens : List Token) :
    bareWords (tokens.map f) = bareWords tokens := by
  induction tokens with
  | nil => rfl
  | cons token tokens ih =>
      rw [List.map_cons]
      by_cases hword : token.kind = .word
      · rw [bareWords_cons_of_word (by rw [hf.kind, hword]), bareWords_cons_of_word hword, ih,
          hf.upper (by rw [hword]; decide)]
      · rw [bareWords_cons_of_ne (by rwa [hf.kind]), bareWords_cons_of_ne hword, ih]

/-- Tokens that are just the keywords have them as their words. -/
theorem bareWords_of_startsWith {words : List String} {tokens : List Token}
    (hstarts : startsWith words tokens = true) (hlength : tokens.length = words.length) :
    bareWords tokens = words ∧ ∀ token ∈ tokens, token.kind = .word ∧ token.upper ∈ words := by
  induction words generalizing tokens with
  | nil =>
      obtain rfl : tokens = [] := List.length_eq_zero_iff.mp hlength
      exact ⟨rfl, by simp⟩
  | cons word words ih =>
      cases tokens with
      | nil => cases hlength
      | cons token tokens =>
          rw [startsWith, Bool.and_eq_true, Token.isKeyword, Bool.and_eq_true] at hstarts
          obtain ⟨⟨hkind, hupper⟩, hrest⟩ := hstarts
          have hword : token.kind = .word := by simpa using hkind
          have hupper' : token.upper = word := by simpa using hupper
          obtain ⟨hwords, hall⟩ := ih hrest (Nat.succ.inj hlength)
          refine ⟨by rw [bareWords_cons_of_word hword, hwords, hupper'], ?_⟩
          intro found hfound
          rcases List.mem_cons.mp hfound with rfl | hfound
          · exact ⟨hword, by rw [hupper']; exact List.mem_cons_self⟩
          · exact ⟨(hall found hfound).1, List.mem_cons_of_mem _ (hall found hfound).2⟩

/-- A word that is no half of the pair parts the words. -/
theorem hasPair_append_cons {first second word : String} (hfirst : word ≠ first)
    (hsecond : word ≠ second) (a b : List String) :
    hasPair first second (a ++ word :: b)
      = (hasPair first second a || hasPair first second b) := by
  induction a with
  | nil =>
      cases b with
      | nil => rfl
      | cons x b => simp [hasPair, hfirst]
  | cons x a ih =>
      cases a with
      | nil =>
          rw [List.nil_append] at ih
          rw [List.cons_append, List.nil_append, hasPair, ih]
          simp [hasPair, hsecond]
      | cons y a =>
          rw [List.cons_append] at ih
          rw [List.cons_append, List.cons_append, hasPair, ih, hasPair, Bool.or_assoc]

theorem readToken_shift (dialect : Dialect) (n : Nat) (token : Token) :
    readToken dialect (token.shift n) = (readToken dialect token).shift n := by
  by_cases h : (dialect == .mysql && token.kind == .quotedName && token.quote == some '"') = true
  · have hshift : readToken dialect (token.shift n) = { token.shift n with kind := .string } :=
      if_pos h
    have hread : readToken dialect token = { token with kind := .string } := if_pos h
    rw [hshift, hread]
    rfl
  · have hshift : readToken dialect (token.shift n) = token.shift n := if_neg h
    have hread : readToken dialect token = token := if_neg h
    rw [hshift, hread]

theorem tokensAt_eq_map_shift (dialect : Dialect) (position : Nat) (text : List Char) :
    tokensAt dialect position text = (tokens dialect text).map (Token.shift position) := by
  calc tokensAt dialect position text
      = ((Sql.tokenize text).map (Token.shift position)).map (readToken dialect) :=
        congrArg (List.map (readToken dialect)) (Sql.tokensFrom_eq_map_shift position text)
    _ = ((Sql.tokenize text).map (readToken dialect)).map (Token.shift position) := by
        rw [List.map_map, List.map_map]
        exact List.map_congr_left fun token _ => readToken_shift dialect position token

def endsDefault (isFirst : Bool) (depth : Nat) (token : Token) : Bool :=
  (depth == 0 && !isFirst && token.isKeyword defaultTerminators) ||
    (depth == 0 && token.kind == .closing)

def depthBehind (depth : Nat) (token : Token) : Nat :=
  match token.kind with
  | .opening => depth + 1
  | .closing => depth - 1
  | _ => depth

theorem defaultTokens_cons (isFirst : Bool) (depth : Nat) (token : Token) (tokens : List Token) :
    defaultTokens isFirst depth (token :: tokens)
      = if endsDefault isFirst depth token then []
        else token :: defaultTokens false (depthBehind depth token) tokens := by
  by_cases hstop : (depth == 0 && !isFirst && token.isKeyword defaultTerminators) = true
  · simp only [defaultTokens, endsDefault, hstop]
    rfl
  · have hends : endsDefault isFirst depth token = (depth == 0 && token.kind == .closing) := by
      rw [endsDefault, Bool.eq_false_iff.mpr hstop, Bool.false_or]
    rw [hends]
    cases hkind : token.kind with
    | opening => simp [defaultTokens, hstop, hkind, depthBehind]
    | closing =>
        cases depth with
        | zero => simp [defaultTokens, hkind]
        | succ depth => simp [defaultTokens, hkind, depthBehind]
    | word | quotedName | string => simp [defaultTokens, hstop, hkind, depthBehind]

theorem defaultTokens_map_shift (n : Nat) (isFirst : Bool) (depth : Nat) (tokens : List Token) :
    defaultTokens isFirst depth (tokens.map (Token.shift n))
      = (defaultTokens isFirst depth tokens).map (Token.shift n) := by
  induction tokens generalizing isFirst depth with
  | nil => rfl
  | cons token tokens ih =>
      have hends : endsDefault isFirst depth (token.shift n) = endsDefault isFirst depth token := rfl
      have hdepth : depthBehind depth (token.shift n) = depthBehind depth token := rfl
      rw [List.map_cons, defaultTokens_cons, defaultTokens_cons, hends, hdepth, ih]
      split <;> rfl

/-- The value of a default depends on its own text only. -/
theorem defaultOfTokens_shift (before text : List Char) (tokens : List Token) :
    defaultOfTokens (before ++ text) (tokens.map (Token.shift before.length))
      = defaultOfTokens text tokens := by
  cases tokens with
  | nil => rfl
  | cons first rest =>
      rw [List.map_cons, defaultOfTokens, defaultOfTokens, List.isEmpty_map, List.getLast?_map]
      have hlast : (Option.map (Token.shift before.length) rest.getLast?).getD
          (first.shift before.length) = (rest.getLast?.getD first).shift before.length := by
        cases rest.getLast? <;> rfl
      rw [hlast]
      simp only [defaultText, Token.shift, Sql.slice_append_add]

/-- The value of the default that a text behind its keyword spells. -/
def readDefault (dialect : Dialect) (text : List Char) : String :=
  defaultOfTokens text (defaultTokens true 0 (tokens dialect text))

theorem dropWhile_append_cons {α : Type} {p : α → Bool} {a : List α} {b : α}
    (ha : ∀ x ∈ a, p x = true) (hb : p b = false) (rest : List α) :
    (a ++ b :: rest).dropWhile p = b :: rest := by
  rw [List.dropWhile_append_of_pos ha, List.dropWhile_cons_of_neg]
  rw [hb]
  exact Bool.false_ne_true

/-- The keywords of a clause about keys and absent values. -/
def Nullability.keywords : Nullability → List String
  | primaryKey => ["PRIMARY", "KEY"]
  | notNull => ["NOT", "NULL"]
  | nullable => []

theorem Spells.cons_space {word : String} {words : List String} {w text : List Char}
    (htext : Spells words text) (hend : ∀ c ∈ text.head?, isWordPart c = false) (hne : w ≠ [])
    (hw : ∀ c ∈ w, isWordPart c = true) (hupper : Text.upper (.ofList w) = word) :
    Spells (word :: words) (' ' :: (w ++ text)) :=
  have hspace : ∀ c ∈ [' '], Text.isSeparator c = true := by decide
  .cons hspace hne hw hupper hend htext

theorem Nullability.spells (mark : Nullability) : Spells mark.keywords mark.text.toList := by
  cases mark with
  | primaryKey =>
      have hkey : Spells ["KEY"] " KEY".toList :=
        Spells.nil.cons_space (w := "KEY".toList) (by decide) (by decide) (by decide) (by decide)
      exact hkey.cons_space (w := "PRIMARY".toList) (by decide) (by decide) (by decide) (by decide)
  | notNull =>
      have hnull : Spells ["NULL"] " NULL".toList :=
        Spells.nil.cons_space (w := "NULL".toList) (by decide) (by decide) (by decide) (by decide)
      exact hnull.cons_space (w := "NOT".toList) (by decide) (by decide) (by decide) (by decide)
  | nullable => exact .nil

/-- The part of a clause that gives the default, if there is one. -/
def defaultPart : Option (List Char) → List Char
  | none => []
  | some text => ' ' :: ("DEFAULT".toList ++ ' ' :: text)

theorem head?_defaultPart (default? : Option (List Char)) :
    ∀ c ∈ (defaultPart default?).head?, isWordPart c = false := by
  cases default? with
  | none => simp [defaultPart]
  | some text =>
      intro c hc
      cases hc
      decide

theorem tokensAt_defaultPart (dialect : Dialect) (position : Nat) (text : List Char) :
    tokensAt dialect position (defaultPart (some text))
      = wordToken (position + 1) "DEFAULT".toList.reverse (position + 8)
          :: tokensAt dialect (position + 9) text := by
  have hend : ∀ c ∈ (' ' :: text).head?, isWordPart c = false := by
    intro c hc
    cases hc
    decide
  rw [defaultPart, tokensAt_space, tokensAt_word dialect _ (by decide) (by decide) hend,
    tokensAt_space]
  rfl

/-- The part of a clause behind its type. -/
def modifierPart (mark : Nullability) (default? : Option (List Char)) : List Char :=
  mark.text.toList ++ defaultPart default?

/-- The tokens of the modifiers: those of the mark are its keywords. -/
theorem exists_tokensAt_modifierPart (dialect : Dialect) (position : Nat) (mark : Nullability)
    (default? : Option (List Char)) :
    ∃ marks, tokensAt dialect position (modifierPart mark default?)
        = marks ++ tokensAt dialect (position + mark.text.toList.length) (defaultPart default?) ∧
      bareWords marks = mark.keywords ∧
      ∀ token ∈ marks, token.kind = .word ∧ token.upper ∈ mark.keywords := by
  obtain ⟨marks, htokens, hlength, hstarts, -⟩ :=
    mark.spells.exists_tokens dialect position (head?_defaultPart default?)
  have hstarts' := hstarts []
  rw [List.append_nil] at hstarts'
  obtain ⟨hwords, hall⟩ := bareWords_of_startsWith hstarts' hlength
  exact ⟨marks, htokens, hwords, hall⟩

theorem endsType_of_head {dialect : Dialect} {rest : List Char}
    (hrest : ∀ c ∈ rest.head?, isWordPart c = false)
    (htokens : ∀ position, ∀ token ∈ (tokensAt dialect position rest).head?,
      token.kind = .word ∧ ∀ suffix ∈ typeSuffixes, suffix.head? ≠ some token.upper) :
    EndsType dialect rest := by
  refine ⟨hrest, fun position => ?_⟩
  have hhead := htokens position
  cases hall : tokensAt dialect position rest with
  | nil => exact ⟨rfl, by decide⟩
  | cons token tokens =>
      rw [hall] at hhead
      obtain ⟨hkind, hsuffix⟩ := hhead token rfl
      exact ⟨Sql.group?_other (by rw [hkind]; decide) tokens, suffixLength_eq_zero hsuffix tokens⟩

/-- A type ends in front of the modifiers. -/
theorem endsType_modifierPart (dialect : Dialect) (mark : Nullability)
    (default? : Option (List Char)) : EndsType dialect (modifierPart mark default?) := by
  refine endsType_of_head ?_ fun position token htoken => ?_
  · refine head?_append_of ?_ (head?_defaultPart default?)
    cases mark <;> decide
  · obtain ⟨marks, htokens, hwords, hall⟩ :=
      exists_tokensAt_modifierPart dialect position mark default?
    rw [htokens] at htoken
    cases marks with
    | cons first marks =>
        cases htoken
        obtain ⟨hkind, hupper⟩ := hall token List.mem_cons_self
        refine ⟨hkind, fun suffix hsuffix => ?_⟩
        have hkeywords : ∀ word ∈ mark.keywords, ∀ suffix ∈ typeSuffixes,
            suffix.head? ≠ some word := by
          cases mark <;> decide
        exact hkeywords _ hupper suffix hsuffix
    | nil =>
        cases default? with
        | none => cases htoken
        | some text =>
            rw [List.nil_append, tokensAt_defaultPart] at htoken
            cases htoken
            have hdefault : ∀ suffix ∈ typeSuffixes,
                suffix.head? ≠ some (Text.upper (.ofList "DEFAULT".toList)) := by decide
            refine ⟨rfl, fun suffix hsuffix => ?_⟩
            rw [Token.upper, value_wordToken]
            exact hdefault suffix hsuffix

/-! ### Reading a clause

The tokens of a clause are those of its name, its type and its modifiers, and each reading passes
over the parts that it does not look for. Only a default can hold words of its own, so what these
say is left open in the column.
-/

def clauseText (dialect : Dialect) (name type : List Char) (mark : Nullability)
    (default? : Option (List Char)) : List Char :=
  Naming.enclosed dialect.quoteChar name ++ ' ' :: (type ++ modifierPart mark default?)

/-- The words of a default, which count as modifiers too. -/
def defaultWords (dialect : Dialect) (default? : Option (List Char)) : List String :=
  (default?.map fun text => bareWords (tokens dialect text)).getD []

/-- The column that a clause describes, whose type starts with the given word. -/
def clauseColumn (dialect : Dialect) (name : String) (word type : List Char) (mark : Nullability)
    (default? : Option (List Char)) : Column :=
  let words := defaultWords dialect default?
  let isPrimaryKey := mark == .primaryKey || hasPair "PRIMARY" "KEY" words ||
    serialTypes.contains (Text.upper (.ofList word))
  let column : Column := {
    name
    type := .ofList type
    isPrimaryKey
    isNullable := !(isPrimaryKey || (mark == .notNull || hasPair "NOT" "NULL" words))
    defaultValue := default?.map (readDefault dialect) }
  match default?.bind fun text => reference? (tokens dialect text) with
  | none => column
  | some reference => column.asForeignKey reference.table reference.columns.head?

theorem dropWhile_isKeyword_map {f : Token → Token} (hf : Token.Keeps f) (words : List String)
    (tokens : List Token) :
    (tokens.map f).dropWhile (!·.isKeyword words)
      = (tokens.dropWhile (!·.isKeyword words)).map f := by
  rw [List.dropWhile_map]
  congr 2
  funext token
  exact congrArg not (hf.isKeyword token words)

theorem objectName_map {f : Token → Token} (hf : Token.Keeps f) {token : Token}
    (hkind : token.kind ≠ .string) : objectName (f token) = objectName token := by
  rw [objectName, objectName, hf.kind, hf.value hkind]

theorem kind_ne_string_of_isName {token : Token} (h : token.isName = true) :
    token.kind ≠ .string := by
  intro hkind
  rw [Token.isName, hkind] at h
  cases h

/-- A reference is found by kinds and values alone. -/
theorem reference?_map {f : Token → Token} (hf : Token.Keeps f) (tokens : List Token) :
    reference? (tokens.map f) = reference? tokens := by
  unfold reference?
  rw [dropWhile_isKeyword_map hf]
  cases tokens.dropWhile (!·.isKeyword ["REFERENCES"]) with
  | nil => rfl
  | cons keyword tokens =>
      cases tokens with
      | nil => rfl
      | cons target rest =>
          simp only [List.map_cons, hf.listedNames, hf.isName]
          by_cases hname : target.isName = true
          · rw [if_pos hname, if_pos hname, objectName_map hf (kind_ne_string_of_isName hname)]
          · rw [if_neg hname, if_neg hname]

theorem isKeyword_of_kind_ne {token : Token} (hkind : token.kind ≠ .word) (words : List String) :
    token.isKeyword words = false := by
  simp [Token.isKeyword, hkind]

theorem isKeyword_false_of_upper {token : Token} {keyword : String}
    (hne : token.upper ≠ keyword) : token.isKeyword [keyword] = false := by
  simp [Token.isKeyword, hne]

theorem reference?_append {before : List Token} (hbefore : ∀ token ∈ before,
    token.upper ≠ "REFERENCES") (tokens : List Token) :
    reference? (before ++ tokens) = reference? tokens := by
  rw [reference?, List.dropWhile_append_of_pos, ← reference?]
  intro token htoken
  rw [isKeyword_false_of_upper (hbefore token htoken)]
  rfl

section Modifiers

variable {dialect : Dialect} {mark : Nullability} {default? : Option (List Char)}

theorem bareWords_modifierPart (position : Nat) :
    bareWords (tokensAt dialect position (modifierPart mark default?))
      = mark.keywords ++ match default? with
        | none => []
        | some _ => "DEFAULT" :: defaultWords dialect default? := by
  obtain ⟨marks, htokens, hwords, -⟩ :=
    exists_tokensAt_modifierPart dialect position mark default?
  rw [htokens, bareWords_append, hwords]
  cases default? with
  | none => rfl
  | some text =>
      have hdefault : Text.upper (.ofList "DEFAULT".toList) = "DEFAULT" := by decide
      rw [tokensAt_defaultPart, bareWords_cons_of_word rfl, tokensAt_eq_map_shift,
        bareWords_map (Token.keeps_shift _), Token.upper, value_wordToken, hdefault]
      rfl

variable (dialect mark default?) in
theorem hasPair_modifierPart {first second : String} (hfirst : first ≠ "DEFAULT")
    (hsecond : second ≠ "DEFAULT") (position : Nat) :
    hasPair first second (bareWords (tokensAt dialect position (modifierPart mark default?)))
      = (hasPair first second mark.keywords ||
          hasPair first second (defaultWords dialect default?)) := by
  rw [bareWords_modifierPart]
  cases default? with
  | none => simp [defaultWords, hasPair]
  | some text => exact hasPair_append_cons hfirst.symm hsecond.symm _ _

/-- The default among the modifiers is read from its own text. -/
theorem default?_modifierPart (before : List Char)
    (hdefault : ∀ text ∈ default?, tokens dialect text ≠ []) :
    Ddl.default? (before ++ modifierPart mark default?)
        (tokensAt dialect before.length (modifierPart mark default?))
      = default?.map (readDefault dialect) := by
  obtain ⟨marks, htokens, -, hall⟩ :=
    exists_tokensAt_modifierPart dialect before.length mark default?
  have hmarks : ∀ token ∈ marks, (!token.isKeyword ["DEFAULT"]) = true := by
    intro token htoken
    have hupper := (hall token htoken).2
    rw [isKeyword_false_of_upper]
    · rfl
    · intro h
      rw [h] at hupper
      revert hupper
      cases mark <;> decide
  rw [Ddl.default?, htokens]
  cases default? with
  | none =>
      rw [defaultPart, tokensAt_nil, List.append_nil, List.dropWhile_eq_nil_iff.mpr hmarks]
      rfl
  | some text =>
      have hkeyword : (wordToken (before.length + mark.text.toList.length + 1)
          "DEFAULT".toList.reverse (before.length + mark.text.toList.length + 8)).isKeyword
            ["DEFAULT"] = true := by
        rw [isKeyword_wordToken]
        decide
      have hsplit : before ++ modifierPart mark (some text)
          = (before ++ (mark.text.toList ++ ' ' :: "DEFAULT ".toList)) ++ text := by
        simp [modifierPart, defaultPart]
      have hlength : before.length + mark.text.toList.length + 9
          = (before ++ (mark.text.toList ++ ' ' :: "DEFAULT ".toList)).length := by
        simp [Nat.add_assoc]
      rw [tokensAt_defaultPart, dropWhile_append_cons hmarks (by rw [hkeyword]; rfl), hlength,
        hsplit, tokensAt_eq_map_shift]
      cases htext : tokens dialect text with
      | nil => exact absurd htext (hdefault text rfl)
      | cons first rest =>
          simp only [List.map_cons, Option.map_some, Option.some.injEq]
          rw [← List.map_cons, ← htext, defaultTokens_map_shift, defaultOfTokens_shift]
          rfl

/-- A reference among the modifiers stands in the default. -/
theorem reference?_modifierPart (position : Nat) :
    reference? (tokensAt dialect position (modifierPart mark default?))
      = default?.bind fun text => reference? (tokens dialect text) := by
  obtain ⟨marks, htokens, -, hall⟩ :=
    exists_tokensAt_modifierPart dialect position mark default?
  have hmarks : ∀ token ∈ marks, token.upper ≠ "REFERENCES" := by
    intro token htoken h
    have hupper := (hall token htoken).2
    rw [h] at hupper
    revert hupper
    cases mark <;> decide
  rw [htokens, reference?_append hmarks]
  cases default? with
  | none => rfl
  | some text =>
      rw [tokensAt_defaultPart, ← List.singleton_append, reference?_append, tokensAt_eq_map_shift,
        reference?_map (Token.keeps_shift _)]
      · rfl
      · intro token htoken
        have hdefault : Text.upper (.ofList "DEFAULT".toList) ≠ "REFERENCES" := by decide
        rw [List.mem_singleton.mp htoken, Token.upper, value_wordToken]
        exact hdefault

end Modifiers

/-- Behind a name, a type and its modifiers are read as the column that they describe. -/
theorem readColumn_eq {dialect : Dialect} {before word tail : List Char} {mark : Nullability}
    {default? : Option (List Char)} (name : Token) (htail : TypeTail tail)
    (hdefault : ∀ text ∈ default?, tokens dialect text ≠ []) :
    readColumn (before ++ ((word ++ tail) ++ modifierPart mark default?)) name
        (wordToken before.length word.reverse (before.length + word.length))
        (tokensAt dialect (before.length + word.length) (tail ++ modifierPart mark default?))
      = clauseColumn dialect (columnName name) word (word ++ tail) mark default? := by
  have hstop : before.length + word.length + tail.length
      = before.length + (word ++ tail).length := by
    rw [List.length_append, Nat.add_assoc]
  have hupper : (wordToken before.length word.reverse (before.length + word.length)).upper
      = Text.upper (.ofList word) := by
    rw [Token.upper, value_wordToken]
  have hend : typeEnd (wordToken before.length word.reverse (before.length + word.length)).stop
      (tokensAt dialect (before.length + word.length) (tail ++ modifierPart mark default?))
      = (before.length + (word ++ tail).length,
        tokensAt dialect (before.length + (word ++ tail).length) (modifierPart mark default?)) := by
    rw [← hstop]
    exact htail.typeEnd_eq (endsType_modifierPart dialect mark default?) _
  have htype : Sql.slice (before ++ ((word ++ tail) ++ modifierPart mark default?)) before.length
      (before.length + (word ++ tail).length) = word ++ tail :=
    Sql.slice_append_append before (word ++ tail) (modifierPart mark default?)
  have hdefault' : Ddl.default? (before ++ ((word ++ tail) ++ modifierPart mark default?))
      (tokensAt dialect (before.length + (word ++ tail).length) (modifierPart mark default?))
      = default?.map (readDefault dialect) := by
    rw [← List.append_assoc, ← List.length_append]
    exact default?_modifierPart (before ++ (word ++ tail)) hdefault
  have hprimary : "PRIMARY" ≠ "DEFAULT" ∧ "KEY" ≠ "DEFAULT" := by decide
  have hnot : "NOT" ≠ "DEFAULT" ∧ "NULL" ≠ "DEFAULT" := by decide
  have hkey := hasPair_modifierPart dialect mark default? hprimary.1 hprimary.2
    (before.length + (word ++ tail).length)
  have hnull := hasPair_modifierPart dialect mark default? hnot.1 hnot.2
    (before.length + (word ++ tail).length)
  have hmarkKey : hasPair "PRIMARY" "KEY" mark.keywords = (mark == .primaryKey) := by
    cases mark <;> decide
  have hmarkNull : hasPair "NOT" "NULL" mark.keywords = (mark == .notNull) := by
    cases mark <;> decide
  rw [hmarkKey, bareWords] at hkey
  rw [hmarkNull, bareWords] at hnull
  rw [readColumn, hend]
  simp only [hkey, hnull, hupper, hdefault', reference?_modifierPart]
  rw [show (wordToken before.length word.reverse (before.length + word.length)).start
    = before.length from rfl, htype]
  rfl

theorem readDefinition_of_kind_ne {dialect : Dialect} {text : List Char} {head : Token}
    {rest : List Token} (htokens : tokens dialect text = head :: rest)
    (hkind : head.kind ≠ .word) :
    readDefinition dialect text
      = ((column? text (tokens dialect text)).map .column).getD .nothing := by
  have hkeyword := isKeyword_of_kind_ne hkind
  rw [readDefinition, htokens, startsWith, startsWith, hkeyword, hkeyword, List.head?_cons,
    Option.any_some, hkeyword]
  rfl

structure StartsColumn (name type : Token) : Prop where
  no_primaryKey : startsWith ["PRIMARY", "KEY"] [name, type] = false
  no_foreignKey : startsWith ["FOREIGN", "KEY"] [name, type] = false
  no_constraint : name.isKeyword ignoredConstraints = false
  isName : name.isName = true
  isType : type.kind = .word
  named : columnName name ≠ ""

/-- A definition is that of a column exactly if its first tokens are a name and a type. -/
theorem readDefinition_eq_column_iff {dialect : Dialect} {text : List Char} {column : Column} :
    readDefinition dialect text = .column column ↔
      ∃ name type rest, tokens dialect text = name :: type :: rest ∧ StartsColumn name type ∧
        readColumn text name type rest = column := by
  constructor
  · intro h
    rw [readDefinition] at h
    split_ifs at h with hprimary hforeign hconstraint
    cases htokens : tokens dialect text with
    | nil =>
        rw [htokens] at h
        cases h
    | cons name others =>
        cases others with
        | nil =>
            rw [htokens] at h
            cases h
        | cons type rest =>
            rw [htokens] at h hprimary hforeign hconstraint
            simp only [column?] at h
            split_ifs at h with hnamed
            · simp only [Bool.and_eq_true, beq_iff_eq, bne_iff_ne] at hnamed
              exact ⟨name, type, rest, rfl, ⟨Bool.eq_false_iff.mpr hprimary,
                Bool.eq_false_iff.mpr hforeign, Bool.eq_false_iff.mpr hconstraint, hnamed.1.1,
                hnamed.1.2, hnamed.2⟩, Definition.column.inj h⟩
            · cases h
  · rintro ⟨name, type, rest, htokens, hstarts, rfl⟩
    have hprimary : ¬ startsWith ["PRIMARY", "KEY"] (name :: type :: rest) = true :=
      Bool.eq_false_iff.mp hstarts.no_primaryKey
    have hforeign : ¬ startsWith ["FOREIGN", "KEY"] (name :: type :: rest) = true :=
      Bool.eq_false_iff.mp hstarts.no_foreignKey
    have hconstraint : ¬ (name :: type :: rest).head?.any (·.isKeyword ignoredConstraints) = true :=
      Bool.eq_false_iff.mp hstarts.no_constraint
    have hnamed : (name.isName && type.kind == .word && columnName name != "") = true := by
      simp [hstarts.isName, hstarts.isType, hstarts.named]
    rw [readDefinition, htokens, if_neg hprimary, if_neg hforeign, if_neg hconstraint, column?,
      if_pos hnamed]
    rfl

/-- A clause is read as the column that it describes. -/
theorem readDefinition_clauseText (dialect : Dialect) {name word tail : List Char}
    (mark : Nullability) {default? : Option (List Char)} (hname : name ≠ []) (hne : word ≠ [])
    (hword : ∀ c ∈ word, isWordPart c = true) (hend : ∀ c ∈ tail.head?, isWordPart c = false)
    (htail : TypeTail tail) (hdefault : ∀ text ∈ default?, tokens dialect text ≠ []) :
    readDefinition dialect (clauseText dialect name (word ++ tail) mark default?)
      = .column (clauseColumn dialect (.ofList name) word (word ++ tail) mark default?) := by
  set before := Naming.enclosed dialect.quoteChar name ++ [' '] with hbefore
  set nameToken := runToken dialect.quoteChar 0 name.reverse
    (0 + (Naming.enclosed dialect.quoteChar name).length) with hnameToken
  have hkind : nameToken.kind = .quotedName := kind_runToken_quoteChar dialect _ _ _
  have hcolumnName : columnName nameToken = .ofList name := by
    rw [columnName, hkind, hnameToken, runToken, List.reverse_reverse]
    rfl
  have hstart : 0 + (Naming.enclosed dialect.quoteChar name).length + 1 = before.length := by
    simp [hbefore]
  have htext : clauseText dialect name (word ++ tail) mark default?
      = before ++ ((word ++ tail) ++ modifierPart mark default?) := by
    simp [clauseText, hbefore]
  have htokens : tokens dialect (clauseText dialect name (word ++ tail) mark default?)
      = nameToken :: wordToken before.length word.reverse (before.length + word.length)
        :: tokensAt dialect (before.length + word.length) (tail ++ modifierPart mark default?) := by
    rw [tokens_eq_tokensAt, clauseText, tokensAt_name, tokensAt_space, List.append_assoc,
      tokensAt_word dialect _ hne hword
        (head?_append_of hend (endsType_modifierPart dialect mark default?).1), hstart]
    intro c hc
    cases hc
    cases dialect <;> decide
  rw [readDefinition_of_kind_ne htokens (by rw [hkind]; decide), htokens, column?, hcolumnName,
    Token.isName, hkind, if_pos, htext, readColumn_eq nameToken htail hdefault, hcolumnName]
  · rfl
  · simpa using ⟨rfl, hname⟩

end RelSchema.Ddl
