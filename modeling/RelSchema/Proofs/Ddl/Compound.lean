import RelSchema.Proofs.Ddl.Modified
import RelSchema.Proofs.Ddl.RawDefault
import RelSchema.Proofs.Ddl.TableScript

/-!
# Defaults of several tokens

A default that consists of several tokens is the text of its expression. The tokens up to the end of
the definition are all of the default if none outside parentheses is one of the keywords that end
it, and their text is that of the expression. Quotes are then taken off the text as a whole, though:
an expression that starts and ends in the same quote loses both, also where they belong to different
literals.
-/

namespace RelSchema.Ddl

open Sql (Token Level Balanced SelfContained Trimmed isWordPart isQuote quotes)
open Sql.Pending (wordToken)

/-- The tokens outside parentheses, where `depth` ones are open in front of the first token. -/
def outerTokens (depth : Nat) : List Token → List Token
  | [] => []
  | token :: tokens =>
    if depth = 0 then token :: outerTokens (depthBehind depth token) tokens
    else outerTokens (depthBehind depth token) tokens

theorem depthBehind_of_nest? {token : Token} {depth next : Nat}
    (h : token.nest? depth = some next) : depthBehind depth token = next := by
  rcases Token.cases_of_nest? h with ⟨hkind, rfl⟩ | ⟨hkind, rfl⟩ | ⟨hopen, hclose, rfl⟩
  · simp only [depthBehind, hkind]
  · simp only [depthBehind, hkind, Nat.add_sub_cancel]
  · cases hkind : token.kind with
    | opening => exact absurd hkind hopen
    | closing => exact absurd hkind hclose
    | word | quotedName | string => simp only [depthBehind, hkind]

/-- A default goes on to the last token if no keyword outside parentheses ends it. -/
theorem defaultTokens_eq_self {depth last : Nat} {tokens : List Token}
    (hnest : Sql.nesting? depth tokens = some last)
    (houter : ∀ token ∈ outerTokens depth tokens, token.isKeyword defaultTerminators = false)
    (isFirst : Bool) : defaultTokens isFirst depth tokens = tokens := by
  induction tokens generalizing depth isFirst with
  | nil => rfl
  | cons token tokens ih =>
      obtain ⟨next, hnext, hrest⟩ := Sql.nesting?_cons_eq_some_iff.mp hnest
      have hends : endsDefault isFirst depth token = false := by
        cases depth with
        | succ depth => simp [endsDefault]
        | zero =>
            have hkeyword : token.isKeyword defaultTerminators = false :=
              houter token (by simp [outerTokens])
            have hkind : token.kind ≠ .closing := by
              intro hclose
              rcases Token.cases_of_nest? hnext with ⟨hopen, -⟩ | ⟨-, hzero⟩ | ⟨-, hne, -⟩
              · rw [hclose] at hopen
                cases hopen
              · cases hzero
              · exact hne hclose
            simp [endsDefault, hkeyword, hkind]
      have houter' : ∀ other ∈ outerTokens next tokens,
          other.isKeyword defaultTerminators = false := by
        intro other hother
        refine houter other ?_
        rw [outerTokens, depthBehind_of_nest? hnext]
        split_ifs
        · exact List.mem_cons_of_mem token hother
        · exact hother
      rw [defaultTokens_cons, hends, depthBehind_of_nest? hnext, ih hrest houter']
      rfl

/-- An expression of several tokens, which leaves nothing open and has no comma, no comment and no
keyword that ends a default outside its quotes and parentheses. -/
structure Compound (dialect : Dialect) (e : List Char) : Prop where
  contained : SelfContained ',' e
  trimmed : Trimmed e
  several : 2 ≤ (tokens dialect e).length
  goes_on : ∀ token ∈ outerTokens 0 (tokens dialect e), token.isKeyword defaultTerminators = false

/-- Whether the first and the last character of a text are the same quote. -/
def LooksQuoted (text : List Char) : Prop :=
  ∃ quote, isQuote quote = true ∧ text.head? = some quote ∧ text.getLast? = some quote

/-- A text of at least two characters loses its ends exactly if it looks quoted. -/
theorem withoutQuotes_eq_self_iff {text : List Char} (hlength : 2 ≤ text.length) :
    withoutQuotes text = text ↔ ¬ LooksQuoted text := by
  match text, hlength with
  | first :: second :: rest, _ =>
    have hlast : (first :: second :: rest).getLast? = (second :: rest).getLast? := by
      rw [List.getLast?_cons_cons]
    unfold withoutQuotes LooksQuoted
    dsimp only
    split_ifs with hquotes
    · obtain ⟨hquote, hend⟩ := Bool.and_eq_true_iff.mp hquotes
      refine iff_of_false (fun hsame => ?_) (not_not.mpr ⟨first, hquote, rfl, ?_⟩)
      · have hlengths := congrArg List.length hsame
        simp only [List.length_dropLast, List.length_cons] at hlengths
        omega
      · rw [hlast]
        simpa using hend
    · refine iff_of_true rfl ?_
      rintro ⟨quote, hquote, hhead, hend⟩
      cases hhead
      rw [hlast] at hend
      exact hquotes (by rw [hquote, hend]; simp)

theorem getLast?_ne_comma {e : List Char} (h : SelfContained ',' e) :
    ∀ c ∈ e.getLast?, (c == ',') = false := by
  rintro c hc
  refine beq_eq_false_iff_ne.mpr ?_
  rintro rfl
  obtain ⟨front, rfl⟩ := List.getLast?_eq_some_iff.mp hc
  have hfront : Balanced front := h.balanced.of_append_code (by decide)
  have hparted : Sql.segments ',' (front ++ [',']) = front :: Sql.segments ',' [] :=
    Sql.segments_append_separator (by decide) (by decide) (by decide)
      h.whole.of_append_left hfront []
  rw [show Sql.segments ',' (front ++ [',']) = [front ++ [',']] from h.whole] at hparted
  have hlengths := congrArg List.length hparted
  cases hlengths

/-- The text between the first and the last token of a default is the default. -/
theorem defaultText_eq {e : List Char} (hcontained : SelfContained ',' e) (htrimmed : Trimmed e)
    {dialect : Dialect} {first last : Token} (hfirst : (tokens dialect e).head? = some first)
    (hlast : (tokens dialect e).getLast? = some last) :
    defaultText e first.start last.stop = e := by
  rw [tokens, List.head?_map] at hfirst
  rw [tokens, List.getLast?_map] at hlast
  obtain ⟨firstRaw, hfirstRaw, rfl⟩ := Option.map_eq_some_iff.mp hfirst
  obtain ⟨lastRaw, hlastRaw, rfl⟩ := Option.map_eq_some_iff.mp hlast
  have hstart : firstRaw.start = 0 := by
    obtain ⟨others, hothers⟩ := List.head?_eq_some_iff.mp hfirstRaw
    obtain ⟨gap, lexeme, rest, he, hgap, -, hposition, -, -⟩ := Sql.exists_lexeme hothers
    cases gap with
    | nil => exact hposition
    | cons c gap =>
        have hblank := htrimmed.first c (by rw [he]; rfl)
        rw [Text.isBlank_of_isSeparator (hgap c List.mem_cons_self)] at hblank
        cases hblank
  have hstop : lastRaw.stop = e.length := by
    obtain ⟨front, gap, he, hposition, hgap⟩ := Sql.exists_gap_of_getLast? hlastRaw
    cases hend : gap.getLast? with
    | none =>
        rw [List.getLast?_eq_none_iff.mp hend, List.append_nil] at he
        rw [hposition, he, Nat.zero_add]
    | some c =>
        have hc : c ∈ e.getLast? := by
          rw [he, List.getLast?_append, hend]
          rfl
        have hblank := htrimmed.last c hc
        rw [Text.isBlank_of_isSeparator (hgap c (List.mem_of_getLast? hend))] at hblank
        cases hblank
  have hslice : Sql.slice e 0 e.length = e := by
    rw [Sql.slice, List.drop_zero, Nat.sub_zero, List.take_length]
  have htrim := Text.trim_eq_self htrimmed.first htrimmed.last
  rw [readToken_start, readToken_stop, hstart, hstop, defaultText, hslice, htrim,
    Text.dropEndWhile_eq_self (getLast?_ne_comma hcontained), htrim]

/-- An expression of several tokens is read as its text, without the quotes around it. -/
theorem Compound.readDefault_eq {dialect : Dialect} {e : List Char} (h : Compound dialect e) :
    readDefault dialect e = .ofList (withoutQuotes e) := by
  have hnest : Sql.nesting? 0 (tokens dialect e) = some 0 :=
    nesting?_tokensAt dialect h.contained.balanced 0 0
  have hseveral := h.several
  rw [readDefault, defaultTokens_eq_self hnest h.goes_on]
  cases htokens : tokens dialect e with
  | nil =>
      rw [htokens] at hseveral
      simp at hseveral
  | cons first others =>
      cases others with
      | nil =>
          rw [htokens] at hseveral
          simp at hseveral
      | cons second rest =>
          obtain ⟨last, hlast⟩ : ∃ last, (second :: rest).getLast? = some last :=
            ⟨_, List.getLast?_eq_some_getLast (List.cons_ne_nil second rest)⟩
          have htext := defaultText_eq h.contained h.trimmed (by rw [htokens]; rfl)
            (by rw [htokens, List.getLast?_cons_cons]; exact hlast)
          rw [defaultOfTokens, hlast]
          simp only [List.isEmpty_cons, Bool.false_and, Option.getD_some, htext]
          rfl

theorem Compound.length_le {dialect : Dialect} {e : List Char} (h : Compound dialect e) :
    2 ≤ e.length := by
  have hseveral := h.several
  rw [tokens, List.length_map] at hseveral
  match e, hseveral with
  | [], hseveral => simp [Sql.tokenize, Sql.tokensFrom, Sql.Pending.tokens] at hseveral
  | [c], hseveral =>
      exfalso
      simp only [Sql.tokenize, Sql.tokensFrom, Sql.Pending.read, Sql.Pending.readCode] at hseveral
      split_ifs at hseveral <;> simp [Sql.Pending.tokens] at hseveral
  | _ :: _ :: rest, _ => simp

/-- The default of a definition is read from the text behind its keyword. -/
theorem default?_keyword (dialect : Dialect) (before : List Char) {keyword gap e : List Char}
    (hkeyword : Text.upper (.ofList keyword) = "DEFAULT")
    (hmodifier : Modifier keyword (gap ++ e)) (hgap : ∀ c ∈ gap, Text.isSeparator c = true)
    (hne : tokens dialect e ≠ []) :
    default? (before ++ (keyword ++ (gap ++ e)))
        (tokensAt dialect before.length (keyword ++ (gap ++ e)))
      = some (readDefault dialect e) := by
  have hisKeyword : ∀ start stop,
      (wordToken start keyword.reverse stop).isKeyword ["DEFAULT"] = true := by
    intro start stop
    rw [isKeyword_wordToken, hkeyword]
    rfl
  have hlength : before.length + keyword.length + gap.length
      = (before ++ (keyword ++ gap)).length := by
    simp only [List.length_append, Nat.add_assoc]
  have hsplit : before ++ (keyword ++ (gap ++ e)) = (before ++ (keyword ++ gap)) ++ e := by
    simp
  rw [default?, hmodifier.tokensAt_eq, List.dropWhile_cons_of_neg (by simp [hisKeyword]),
    tokensAt_gap dialect _ hgap, hlength, hsplit, tokensAt_eq_map_shift]
  cases htokens : tokens dialect e with
  | nil => exact absurd htokens hne
  | cons first rest =>
      simp only [List.map_cons, Option.some.injEq]
      rw [← List.map_cons, ← htokens, defaultTokens_map_shift, defaultOfTokens_shift]
      rfl

theorem default?_append_of_not_isKeyword (definition : List Char) {before : List Token}
    (hbefore : ∀ token ∈ before, token.isKeyword ["DEFAULT"] = false) (tokens : List Token) :
    default? definition (before ++ tokens) = default? definition tokens := by
  rw [default?, List.dropWhile_append_of_pos, ← default?]
  intro token htoken
  rw [hbefore token htoken]
  rfl

section CompoundDefault

variable {dialect : Dialect} {column : Column} {start gap keyword gap' e : List Char}

/-- The definition of a column that ends in a compound default, its only one. -/
theorem Compound.exists_readDefinition (he : Compound dialect e)
    (hstart : ColumnStart dialect column start)
    (hnone : ∀ token ∈ modifierTokens dialect start, token.isKeyword ["DEFAULT"] = false)
    (hgap : ∀ c ∈ gap, Text.isSeparator c = true) (hne : gap ≠ [])
    (hkeyword : Text.upper (.ofList keyword) = "DEFAULT")
    (hgap' : ∀ c ∈ gap', Text.isSeparator c = true)
    (hend : ∀ c ∈ (gap' ++ e).head?, isWordPart c = false) :
    ∃ found, readDefinition dialect (start ++ (gap ++ (keyword ++ (gap' ++ e)))) = .column found ∧
      found.name = column.name ∧ found.type = column.type ∧
      found.defaultValue = some (.ofList (withoutQuotes e)) := by
  have hmodifier : Modifier keyword (gap' ++ e) :=
    .of_upper hkeyword (by decide) (by decide) (by decide) hend
  obtain ⟨found, hread, hname, htype, hdefault, -⟩ :=
    hstart.exists_readDefinition hgap hne hmodifier
  refine ⟨found, hread, hname, htype, ?_⟩
  have htokens : tokens dialect e ≠ [] := tokens_ne_nil he.trimmed.ne_nil he.trimmed.first
  rw [hdefault, default?_append_of_not_isKeyword _ hnone, ← List.append_assoc,
    default?_keyword dialect (start ++ gap) hkeyword hmodifier hgap' htokens, he.readDefault_eq]

variable {name text : String} {script : TableScript} {front back : List (List Char)}
  {part : List Char}

/-- A column of a script whose definition ends in a compound default is found at its place with its
name and its type, and with the expression as its default exactly if this does not start and end in
the same quote. -/
theorem compound_default_iff (hscript : script.Creates dialect name) (htext : script.Spells text)
    (hname : name ≠ "") (hnamed : (script.creation dialect name).Named)
    (hparts : script.parts = front ++ part :: back)
    (hpart : Text.trim part = start ++ (gap ++ (keyword ++ (gap' ++ e))))
    (hstart : ColumnStart dialect column start)
    (hnone : ∀ token ∈ modifierTokens dialect start, token.isKeyword ["DEFAULT"] = false)
    (hgap : ∀ c ∈ gap, Text.isSeparator c = true) (hne : gap ≠ [])
    (hkeyword : Text.upper (.ofList keyword) = "DEFAULT")
    (hgap' : ∀ c ∈ gap', Text.isSeparator c = true)
    (hend : ∀ c ∈ (gap' ++ e).head?, isWordPart c = false) (he : Compound dialect e) :
    ∃ table found, script.Gives dialect text [table] ∧
      table.columns[(TableScript.columnsIn dialect front).length]? = some found ∧
      found.name = column.name ∧ found.type = column.type ∧
      (found.defaultValue = some (.ofList e) ↔ ¬ LooksQuoted e) := by
  obtain ⟨read, hread, hreadName, hreadType, hreadDefault⟩ :=
    he.exists_readDefinition hstart hnone hgap hne hkeyword hgap' hend
  rw [← hpart] at hread
  have hpartNe : Text.trim part ≠ [] := by
    rw [hpart]
    simp [hne]
  have hdefinitions := TableScript.definitionTexts_ne_nil_of_parts hparts hpartNe
  have hcolumns := TableScript.columns_creation_of_parts hparts hpartNe hread name
  obtain ⟨hsettledName, hsettledType, hsettledDefault⟩ :=
    (script.creation dialect name).settled_eq read
  refine ⟨_, (script.creation dialect name).settled read,
    hscript.gives_table htext hname hdefinitions hnamed, ?_, hsettledName.trans hreadName,
    hsettledType.trans hreadType, ?_⟩
  · simp only [Creation.table, hcolumns, List.map_append, List.map_cons]
    rw [List.getElem?_append_right (by simp)]
    simp
  · rw [hsettledDefault, hreadDefault, Option.some.injEq, String.ofList_inj]
    exact withoutQuotes_eq_self_iff he.length_le

end CompoundDefault

/-- A table whose second column has a sum as its default. -/
def sumScript : TableScript where
  head := "CREATE TABLE t ".toList
  parts := ["a TEXT".toList, " b INT  DEFAULT 1 + 2".toList]

def sumText : String := "CREATE TABLE t (a TEXT, b INT /* none */DEFAULT 1 + 2)"

theorem compound_default_sum :
    sumScript.Creates .sqlite "t" ∧ sumScript.Spells sumText ∧ Compound .sqlite "1 + 2".toList ∧
      ∃ table found, sumScript.Gives .sqlite sumText [table] ∧ table.columns[1]? = some found ∧
        found.name = "b" ∧ found.type = "INT" ∧
        (found.defaultValue = some (.ofList "1 + 2".toList) ↔ ¬ LooksQuoted "1 + 2".toList) := by
  have hscript : sumScript.Creates .sqlite "t" :=
    ⟨by decide +kernel, by decide +kernel, by decide, .blank (by decide), by decide⟩
  have htext : sumScript.Spells sumText := by decide +kernel
  have hcompound : Compound .sqlite "1 + 2".toList :=
    ⟨by decide +kernel, ⟨by decide, by decide, by decide⟩, by decide +kernel, by decide +kernel⟩
  have hcount : (TableScript.columnsIn .sqlite ["a TEXT".toList]).length = 1 := by decide +kernel
  refine ⟨hscript, htext, hcompound, ?_⟩
  rw [← hcount]
  exact @compound_default_iff .sqlite { name := "b", type := "INT" } "b INT".toList
    [' ', ' '] "DEFAULT".toList [' '] "1 + 2".toList "t" sumText sumScript ["a TEXT".toList] []
    " b INT  DEFAULT 1 + 2".toList hscript htext (by decide) (by decide +kernel) rfl
    (by decide +kernel) (by decide +kernel) (by decide +kernel) (by decide) (by decide)
    (by decide +kernel) (by decide) (by decide) hcompound

/-- A column whose default is a concatenation of two literals. -/
def concatenationText : String := "CREATE TABLE t (a TEXT DEFAULT 'a' || 'b')"

/-- A concatenation of two literals loses the outer quotes of both. -/
theorem compound_default_concatenation :
    Compound .sqlite "'a' || 'b'".toList ∧
      parse concatenationText (some "sqlite") = .ok [{
        name := "t"
        columns := [{ name := "a", type := "TEXT", defaultValue := some "a' || 'b" }] }] := by
  refine ⟨⟨?_, ⟨?_, ?_, ?_⟩, ?_, ?_⟩, ?_⟩ <;> decide +kernel

end RelSchema.Ddl
