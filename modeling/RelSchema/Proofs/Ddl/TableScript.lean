import RelSchema.Proofs.Ddl.Assembled
import RelSchema.Proofs.Ddl.Listed
import RelSchema.Proofs.Sql.Boundary

/-!
# Scripts around the definitions of a table

A statement that creates a table is a head, which ends in front of the first parenthesis, the
definitions between commas in parentheses, and options. In a script it may stand between other
statements. What the script describes is then what these describe, and between them the table that
is assembled from the definitions.
-/

namespace RelSchema.Ddl

open Sql (Token Level Balanced SelfContained Trimmed isWordPart isQuote quotes isBreak_opening)
open Sql.Pending (wordToken runToken parenToken)
open Text (openQuote)

/-- The tokens from the name of a table on, if the tokens start as a statement that creates one
does. -/
def nameTokens (tokens : List Token) : List Token :=
  if startsWith ["CREATE", "TABLE"] tokens then
    if startsWith ["IF", "NOT", "EXISTS"] (tokens.drop 2) then tokens.drop 5 else tokens.drop 2
  else []

/-- The name that the head of a statement gives to a table, if it has a name and behind it no
parenthesis. -/
def headName? (dialect : Dialect) (head : List Char) : Option String :=
  match nameTokens (tokens dialect head) with
  | [] => none
  | token :: rest =>
    if token.isName && rest.all (·.kind != .opening) then some (objectName token) else none

/-- The head of a statement that creates a table of the name. -/
structure Heading (dialect : Dialect) (name : String) (head : List Char) : Prop where
  contained : SelfContained ';' head
  first : ∀ c ∈ head.head?, Text.isBlank c = false
  named : headName? dialect head = some name

instance (dialect : Dialect) (name : String) (head : List Char) :
    Decidable (Heading dialect name head) :=
  decidable_of_iff (SelfContained ';' head ∧ (∀ c ∈ head.head?, Text.isBlank c = false) ∧
    headName? dialect head = some name)
    ⟨fun h => ⟨h.1, h.2.1, h.2.2⟩, fun h => ⟨h.contained, h.first, h.named⟩⟩

theorem statementTable?_eq_readTable? (dialect : Dialect) (statement : List Char) :
    statementTable? dialect statement
      = readTable? dialect statement (nameTokens (tokens dialect statement)) := by
  unfold statementTable? nameTokens
  dsimp only
  split_ifs with hcreate hguard
  · rw [List.drop_drop]
  · rfl
  · rfl

/-- Tokens behind that start with no word complete no row of keywords. -/
theorem startsWith_append {a b : List Token} (hb : ∀ token ∈ b.head?, token.kind ≠ .word)
    (words : List String) : startsWith words (a ++ b) = startsWith words a := by
  induction words generalizing a with
  | nil => rw [startsWith, startsWith]
  | cons word words ih =>
      cases a with
      | cons token a => rw [List.cons_append, startsWith, startsWith, ih]
      | nil =>
          cases b with
          | nil => rfl
          | cons token b =>
              have hkeyword := isKeyword_of_kind_ne (hb token rfl) [word]
              rw [List.nil_append, startsWith, startsWith, hkeyword, Bool.false_and]

theorem startsWith_words_append (first second : List String) (tokens : List Token) :
    startsWith (first ++ second) tokens
      = (startsWith first tokens && startsWith second (tokens.drop first.length)) := by
  induction first generalizing tokens with
  | nil => rw [List.nil_append, startsWith, Bool.true_and, List.length_nil, List.drop_zero]
  | cons word first ih =>
      cases tokens with
      | nil => rfl
      | cons token tokens =>
          rw [List.cons_append, startsWith, startsWith, ih, Bool.and_assoc, List.length_cons,
            List.drop_succ_cons]

/-- The name of a table is behind the words that create it, with or without a guard. -/
theorem nameTokens_of_startsWith {keywords : List String}
    (hkeywords : keywords = ["CREATE", "TABLE"] ∨
      keywords = ["CREATE", "TABLE", "IF", "NOT", "EXISTS"])
    {words rest : List Token} (hlength : words.length = keywords.length)
    (hstarts : startsWith keywords (words ++ rest) = true) (hrest : startsWith ["IF"] rest = false) :
    nameTokens (words ++ rest) = rest := by
  rcases hkeywords with rfl | rfl
  · have htwo : words.length = 2 := hlength
    have hguard : startsWith ["IF", "NOT", "EXISTS"] rest = false := by
      rw [show ["IF", "NOT", "EXISTS"] = ["IF"] ++ ["NOT", "EXISTS"] from rfl,
        startsWith_words_append, hrest, Bool.false_and]
    rw [nameTokens, hstarts, if_pos rfl, List.drop_left' htwo, hguard, if_neg Bool.false_ne_true]
  · have hfive : words.length = 5 := hlength
    rw [show ["CREATE", "TABLE", "IF", "NOT", "EXISTS"]
        = ["CREATE", "TABLE"] ++ ["IF", "NOT", "EXISTS"] from rfl,
      startsWith_words_append, Bool.and_eq_true] at hstarts
    obtain ⟨hcreate, hguard⟩ := hstarts
    rw [nameTokens, if_pos hcreate, if_pos (show startsWith _ (List.drop 2 _) = true from hguard),
      List.drop_left' hfive]

theorem nameTokens_append {a b rest : List Token} {token : Token}
    (hb : ∀ token ∈ b.head?, token.kind ≠ .word) (ha : nameTokens a = token :: rest) :
    nameTokens (a ++ b) = token :: (rest ++ b) ∧ ∃ before, a = before ++ token :: rest := by
  have hdrop : ∀ n, a.drop n = token :: rest → n ≤ a.length ∧
      (a ++ b).drop n = token :: (rest ++ b) ∧ ∃ before, a = before ++ token :: rest := by
    intro n hn
    have hlength : n ≤ a.length := by
      by_contra hlt
      rw [List.drop_eq_nil_of_le (by omega)] at hn
      cases hn
    refine ⟨hlength, ?_, a.take n, ?_⟩
    · rw [List.drop_append_of_le_length hlength, hn]
      rfl
    · rw [← hn, List.take_append_drop]
  unfold nameTokens at ha ⊢
  rw [startsWith_append hb]
  split_ifs at ha with hcreate hguard
  · obtain ⟨hlength, hdropped, hbefore⟩ := hdrop 5 ha
    have htwo : 2 ≤ a.length := le_trans (by decide) hlength
    rw [if_pos hcreate, List.drop_append_of_le_length htwo, startsWith_append hb, if_pos hguard]
    exact ⟨hdropped, hbefore⟩
  · obtain ⟨hlength, hdropped, hbefore⟩ := hdrop 2 ha
    refine ⟨?_, hbefore⟩
    rw [if_pos hcreate, if_neg, hdropped]
    rw [List.drop_append_of_le_length hlength, startsWith_append hb]
    exact hguard

/-- Behind the name of a head, the body of the statement is found. -/
theorem inside_drop_stop {dialect : Dialect} {head body : List Char} {before rest : List Token}
    {token : Token} (hclosed : openQuote quotes none head = none)
    (htokens : tokens dialect head = before ++ token :: rest)
    (hrest : ∀ other ∈ rest, other.kind ≠ .opening) (hbody : Balanced body) (options : List Char) :
    Sql.Brackets.inside {} ((head ++ '(' :: (body ++ ')' :: options)).drop token.stop) = body := by
  obtain ⟨before', tokens', hsplit, -, htokens'⟩ := List.map_eq_append_iff.mp htokens
  obtain ⟨token', rest', rfl, rfl, rfl⟩ := List.map_eq_cons_iff.mp htokens'
  obtain ⟨front, back, rfl, hstop, hback, hbackTokens⟩ :=
    Sql.exists_append_of_tokensFrom hclosed hsplit
  have hflat : ∀ other ∈ Sql.tokensFrom token'.stop .nothing back, other.kind ≠ .opening := by
    intro other hother hkind
    rw [hbackTokens] at hother
    refine hrest _ (List.mem_map_of_mem hother) ?_
    rwa [kind_readToken_iff dialect (by decide) (by decide)]
  have hclose := Sql.Brackets.closeFrom_closing hbody (back.length + 1) options
  have hfind : Sql.Brackets.findFrom {} none 0 (back ++ '(' :: (body ++ ')' :: options))
      = some (0 + back.length, 0 + back.length + 1 + body.length) := by
    rw [Sql.findFrom_append_of_flat hback hflat, Nat.zero_add]
    exact congrArg (Option.map fun close => (back.length, close)) hclose
  have hfinds : Sql.Brackets.Finds none 0 (back ++ '(' :: (body ++ ')' :: options)) back body :=
    ⟨⟨options, rfl⟩, hfind⟩
  rw [readToken_stop, hstop, Nat.zero_add, List.append_assoc, List.drop_left]
  exact hfinds.inside_eq

/-- A statement with the head creates the table with the definitions in its first parentheses,
unless it gives no name or these are blank. -/
theorem Heading.statementTable?_eq {dialect : Dialect} {name : String} {head body : List Char}
    (h : Heading dialect name head) (hbody : Balanced body) (options : List Char) :
    statementTable? dialect (head ++ '(' :: (body ++ ')' :: options))
      = if name = "" ∨ Text.trim body = [] then none
        else some (assemble name ((Sql.definitions body).map (readDefinition dialect))) := by
  have hclosed := h.contained.balanced.openQuote_eq
  have hnamed := h.named
  unfold headName? at hnamed
  cases hname : nameTokens (tokens dialect head) with
  | nil =>
      rw [hname] at hnamed
      cases hnamed
  | cons token rest =>
      rw [hname] at hnamed
      dsimp only at hnamed
      split_ifs at hnamed with hflat
      obtain ⟨hisName, hrest⟩ := Bool.and_eq_true_iff.mp hflat
      obtain rfl : objectName token = name := Option.some.inj hnamed
      have hparen : ∀ other ∈ (tokensAt dialect (0 + head.length)
          ('(' :: (body ++ ')' :: options))).head?, other.kind ≠ .word := by
        intro other hother
        rw [tokensAt_opening] at hother
        cases hother
        exact Sql.TokenKind.noConfusion
      obtain ⟨hall, before, hbefore⟩ := nameTokens_append hparen hname
      have hinside := inside_drop_stop hclosed hbefore
        (fun other hother => by simpa using List.all_eq_true.mp hrest other hother) hbody options
      rw [statementTable?_eq_readTable?, tokens_eq_tokensAt,
        tokensAt_append dialect hclosed (isBreak_opening _), ← tokens_eq_tokensAt, hall, readTable?]
      simp only [hinside, hisName, Bool.true_and]
      by_cases hnone : objectName token = "" ∨ Text.trim body = []
      · rw [if_pos hnone, if_neg]
        rcases hnone with hnil | hnil <;> simp [hnil]
      · rw [if_neg hnone, if_pos]
        simpa [not_or] using hnone

theorem Heading.trimmed_statement {dialect : Dialect} {name : String} {head : List Char}
    (h : Heading dialect name head) (body : List Char) :
    Trimmed (head ++ '(' :: (body ++ [')'])) := by
  refine ⟨by simp, ?_, ?_⟩
  · refine head?_append_of h.first fun c hc => ?_
    cases hc
    decide
  · intro c hc
    have hlast : (head ++ '(' :: (body ++ [')'])).getLast? = some ')' := by
      rw [List.getLast?_append, List.getLast?_cons, List.getLast?_append]
      rfl
    rw [hlast] at hc
    cases hc
    decide

/-- A script that starts with a statement of the head has the table of its body in front of those of
its rest. -/
theorem Heading.tablesIn_eq {dialect : Dialect} {name : String} {head body : List Char}
    (h : Heading dialect name head) (hname : name ≠ "") (hbody : Balanced body)
    (hunmarked : Sql.Unmarked body) (hblank : Text.trim body ≠ []) (rest : List Char) :
    tablesIn dialect (Sql.stripComments (head ++ '(' :: (body ++ [')']) ++ ';' :: rest))
      = (do
        let first ← assemble name ((Sql.definitions body).map (readDefinition dialect))
        let others ← tablesIn dialect (Sql.stripComments rest)
        return first :: others) := by
  have hcontained : SelfContained ';' (head ++ '(' :: (body ++ [')'])) := by
    refine h.contained.append (.parenthesized ';' hbody hunmarked) fun c _ d hd => ?_
    cases hd
    exact Sql.isMark_of_right (by decide) (by decide)
  refine tablesIn_of_statements
    (statements_semicolon hcontained (h.trimmed_statement body) rest) ?_
  rw [h.statementTable?_eq hbody [], if_neg (not_or.mpr ⟨hname, hblank⟩)]

/-- Whether a statement starts behind the text: it is blank, or a semicolon and blanks stand at its
end, and nothing is open in front of them. -/
inductive StartsStatement : List Char → Prop
  | blank {gap : List Char} (hgap : ∀ c ∈ gap, Text.isBlank c = true) : StartsStatement gap
  | behind {front gap : List Char} (hfront : Level.clampedAfter {} front = {})
      (hgap : ∀ c ∈ gap, Text.isBlank c = true) : StartsStatement (front ++ ';' :: gap)

theorem statements_blank {gap : List Char} (hgap : ∀ c ∈ gap, Text.isBlank c = true) :
    Sql.statements gap = [] := by
  have hnil := Sql.splitTopLevel_gap Sql.isSeparating_semicolon hgap []
  rw [List.append_nil] at hnil
  exact hnil

theorem StartsStatement.statements_append {before : List Char} (h : StartsStatement before)
    (rest : List Char) :
    Sql.statements (before ++ rest) = Sql.statements before ++ Sql.statements rest := by
  have hblank : ∀ gap : List Char, (∀ c ∈ gap, Text.isBlank c = true) →
      Sql.statements (gap ++ rest) = Sql.statements rest :=
    fun gap hgap => Sql.splitTopLevel_gap Sql.isSeparating_semicolon hgap rest
  cases h with
  | blank hgap => rw [hblank _ hgap, statements_blank hgap, List.nil_append]
  | @behind front gap hfront hgap =>
      have hparted : ∀ b, Sql.statements (front ++ ';' :: b)
          = Sql.statements front ++ Sql.statements b :=
        Sql.splitTopLevel_append_separator Sql.isSeparating_semicolon hfront
      rw [List.append_assoc, List.cons_append, hparted, hparted, hblank _ hgap,
        statements_blank hgap, List.append_nil]

/-- A statement in front of the end of a script or a semicolon stands for itself. -/
theorem statements_cons {statement after : List Char} (hbalanced : Balanced statement)
    (hwhole : Sql.IsWhole ';' statement) (htrim : Text.trim statement ≠ [])
    (hafter : ∀ c ∈ after.head?, c = ';') :
    Sql.statements (statement ++ after) = Text.trim statement :: Sql.statements after := by
  have hsplit : ∀ text others, Sql.segments ';' text = statement :: others →
      Sql.statements text
        = Text.trim statement :: (others.map Text.trim).filter (!·.isEmpty) := by
    intro text others hsegments
    rw [Sql.statements, Sql.splitTopLevel, hsegments, List.map_cons, List.filter_cons_of_pos]
    simpa using htrim
  cases after with
  | nil =>
      rw [List.append_nil]
      exact hsplit statement [] hwhole
  | cons c rest =>
      obtain rfl : c = ';' := hafter c rfl
      have hsegments : ∀ front, Sql.IsWhole ';' front → Balanced front →
          Sql.segments ';' (front ++ ';' :: rest) = front :: Sql.segments ';' rest := by
        intro front hfront hbalanced
        exact Sql.segments_append_separator (by decide) (by decide) (by decide) hfront hbalanced rest
      have hrest : Sql.statements (';' :: rest) = Sql.statements rest := by
        have hnil := hsegments [] (.nil ';') .nil
        rw [List.nil_append] at hnil
        rw [Sql.statements, Sql.splitTopLevel, hnil]
        rfl
      rw [hrest]
      exact hsplit _ _ (hsegments statement hwhole hbalanced)

/-! ### Scripts

A script is given by its parts, so that what is shown of one definition holds with any definitions
and any statements around it. It has no comments; a text spells the script if this is what the
removal of comments leaves of it.
-/

/-- A script without comments around the definitions of one table: what stands in front of its
statement, the head of the statement, the texts between its commas, its options, and what follows
it. -/
structure TableScript where
  before : List Char := []
  head : List Char
  parts : List (List Char)
  options : List Char := []
  after : List Char := []

namespace TableScript

def body (script : TableScript) : List Char :=
  [','].intercalate script.parts

def statement (script : TableScript) : List Char :=
  script.head ++ '(' :: (script.body ++ ')' :: script.options)

def text (script : TableScript) : List Char :=
  script.before ++ (script.statement ++ script.after)

/-- The definitions of the table: what is not blank between its commas. -/
def definitionTexts (script : TableScript) : List (List Char) :=
  (script.parts.map Text.trim).filter (!·.isEmpty)

/-- Whether the script creates a table of the name between statements of their own. -/
structure Creates (script : TableScript) (dialect : Dialect) (name : String) : Prop where
  heading : Heading dialect name script.head
  parts : ∀ part ∈ script.parts, SelfContained ',' part
  options : SelfContained ';' script.options
  before : StartsStatement script.before
  after : ∀ c ∈ script.after.head?, c = ';'

def creation (script : TableScript) (dialect : Dialect) (name : String) : Creation :=
  ⟨name, script.definitionTexts.map (readDefinition dialect)⟩

theorem balanced_intercalate {parts : List (List Char)} (hparts : ∀ part ∈ parts, Balanced part) :
    Balanced ([','].intercalate parts) := by
  induction parts with
  | nil => exact rfl
  | cons part rest ih =>
      have hrest := ih fun other hother => hparts other (List.mem_cons_of_mem part hother)
      cases rest with
      | nil => simpa using hparts part List.mem_cons_self
      | cons next rest =>
          have hcomma : Balanced [','] := by decide
          rw [List.intercalate_cons_cons, List.append_assoc]
          exact (hparts part List.mem_cons_self).append (hcomma.append hrest)

/-- The definitions in a body are what is not blank between its commas. -/
theorem definitions_intercalate {parts : List (List Char)}
    (hparts : ∀ part ∈ parts, SelfContained ',' part) :
    Sql.definitions ([','].intercalate parts)
      = (parts.map Text.trim).filter (!·.isEmpty) := by
  have hsegments : ∀ parts : List (List Char), (∀ part ∈ parts, SelfContained ',' part) →
      parts ≠ [] → Sql.segments ',' ([','].intercalate parts) = parts := by
    intro parts hparts hne
    induction parts with
    | nil => exact absurd rfl hne
    | cons part rest ih =>
        have hpart := hparts part List.mem_cons_self
        cases rest with
        | nil =>
            rw [List.intercalate_singleton]
            exact hpart.whole
        | cons next rest =>
            rw [List.intercalate_cons_cons, List.append_assoc, List.singleton_append,
              Sql.segments_append_separator (by decide) (by decide) (by decide) hpart.whole
                hpart.balanced,
              ih (fun other hother => hparts other (List.mem_cons_of_mem part hother))
                (List.cons_ne_nil _ _)]
  cases parts with
  | nil => rfl
  | cons part rest =>
      rw [Sql.definitions, Sql.splitTopLevel, hsegments _ hparts (List.cons_ne_nil _ _)]

namespace Creates

variable {script : TableScript} {dialect : Dialect} {name : String}

theorem balanced_body (h : script.Creates dialect name) : Balanced script.body :=
  balanced_intercalate fun part hpart => (h.parts part hpart).balanced

theorem definitions_body (h : script.Creates dialect name) :
    Sql.definitions script.body = script.definitionTexts :=
  definitions_intercalate h.parts

theorem statement_balanced_whole (h : script.Creates dialect name) :
    Balanced script.statement ∧ Sql.IsWhole ';' script.statement := by
  have hbody := h.balanced_body
  have hgroup := hbody.parenthesized
  have hsplit : script.statement
      = script.head ++ (('(' :: script.body ++ [')']) ++ script.options) := by
    simp [statement]
  rw [hsplit]
  exact ⟨h.heading.contained.balanced.append (hgroup.append h.options.balanced),
    h.heading.contained.whole.append h.heading.contained.balanced
      ((Sql.IsWhole.parenthesized ';' hbody).append hgroup h.options.whole)⟩

/-- The statement of the table stands between those in front of it and those behind it; blanks at
the end of its options are taken off. -/
theorem exists_statements_eq (h : script.Creates dialect name) :
    ∃ kept, Sql.statements script.text
      = Sql.statements script.before
        ++ (script.head ++ '(' :: (script.body ++ ')' :: kept))
          :: Sql.statements script.after := by
  obtain ⟨hbalanced, hwhole⟩ := h.statement_balanced_whole
  have hclosed := h.heading.trimmed_statement script.body
  obtain ⟨kept, gap, htrim, hoptions, -⟩ := hclosed.exists_trim_append script.options
  have hstatement : script.statement
      = (script.head ++ '(' :: (script.body ++ [')'])) ++ script.options := by
    simp [statement]
  refine ⟨kept, ?_⟩
  rw [← hstatement] at htrim
  have hne : Text.trim script.statement ≠ [] := by
    rw [htrim]
    simp
  rw [text, h.before.statements_append, statements_cons hbalanced hwhole hne h.after, htrim]
  simp

end Creates

def definitionsIn (dialect : Dialect) (parts : List (List Char)) : List Definition :=
  ((parts.map Text.trim).filter (!·.isEmpty)).map (readDefinition dialect)

def columnsIn (dialect : Dialect) (parts : List (List Char)) : List Column :=
  (definitionsIn dialect parts).filterMap Definition.column?

def foreignKeysIn (dialect : Dialect) (parts : List (List Char)) : List ForeignKey :=
  (definitionsIn dialect parts).flatMap Definition.foreign

theorem readDefinition_nil (dialect : Dialect) : readDefinition dialect [] = .nothing := rfl

theorem ne_nil_of_readDefinition {dialect : Dialect} {text : List Char} {definition : Definition}
    (h : readDefinition dialect text = definition) (hne : definition ≠ .nothing) : text ≠ [] := by
  rintro rfl
  exact hne (h.symm.trans (readDefinition_nil dialect))

theorem mem_columnsIn {dialect : Dialect} {parts : List (List Char)} {column : Column} :
    column ∈ columnsIn dialect parts ↔
      ∃ part ∈ parts, readDefinition dialect (Text.trim part) = .column column := by
  constructor
  · intro h
    obtain ⟨definition, hdefinition, hcolumn⟩ := List.mem_filterMap.mp h
    obtain ⟨text, htext, rfl⟩ := List.mem_map.mp hdefinition
    obtain ⟨part, hpart, rfl⟩ := List.mem_map.mp (List.mem_filter.mp htext).1
    refine ⟨part, hpart, ?_⟩
    cases hread : readDefinition dialect (Text.trim part) with
    | column read =>
        rw [hread] at hcolumn
        exact congrArg Definition.column (Option.some.inj hcolumn)
    | _ =>
        rw [hread] at hcolumn
        cases hcolumn
  · rintro ⟨part, hpart, hread⟩
    have hne : Text.trim part ≠ [] := ne_nil_of_readDefinition hread Definition.noConfusion
    refine List.mem_filterMap.mpr ⟨_, List.mem_map_of_mem (List.mem_filter.mpr
      ⟨List.mem_map_of_mem hpart, by simpa using hne⟩), ?_⟩
    rw [hread]
    rfl

def Spells (script : TableScript) (text : String) : Prop :=
  Sql.stripComments text.toList = script.text

instance (script : TableScript) (text : String) : Decidable (script.Spells text) :=
  inferInstanceAs (Decidable (_ = _))

/-- Whether the text is read as a script with the tables between those in front of the statement and
those behind it. -/
def Gives (script : TableScript) (dialect : Dialect) (text : String) (tables : List Table) : Prop :=
  parse text (some dialect.name) = (do
    let front ← tablesIn dialect script.before
    let back ← tablesIn dialect script.after
    return front ++ (tables ++ back))

/-- Whether the script gives no tables in front of the statement and behind it. -/
structure Alone (script : TableScript) (dialect : Dialect) : Prop where
  before : tablesIn dialect script.before = .ok []
  after : tablesIn dialect script.after = .ok []

namespace Creates

variable {script : TableScript} {dialect : Dialect} {name : String} {text : String}

theorem isLinked_creation (script : TableScript) (dialect : Dialect) (name : String) :
    ∀ column ∈ (script.creation dialect name).columns, IsLinked column := by
  intro column hcolumn
  obtain ⟨part, -, hread⟩ := mem_columnsIn.mp hcolumn
  exact isLinked_of_readDefinition hread

/-- What the statement gives comes between what the rest of the script gives. -/
theorem parse_eq (h : script.Creates dialect name) (htext : script.Spells text)
    (result? : Option (Except Failure Table)) (hstatement : ∀ options,
      statementTable? dialect (script.head ++ '(' :: (script.body ++ ')' :: options)) = result?) :
    parse text (some dialect.name) = (do
      let front ← tablesIn dialect script.before
      let own ← result?.toList.mapM id
      let back ← tablesIn dialect script.after
      return front ++ (own ++ back)) := by
  obtain ⟨kept, hstatements⟩ := h.exists_statements_eq
  have hcons : ((Sql.statements script.before ++ (script.head ++ '(' :: (script.body ++ ')' :: kept))
        :: Sql.statements script.after).filterMap (statementTable? dialect))
      = (Sql.statements script.before).filterMap (statementTable? dialect)
        ++ (result?.toList ++ (Sql.statements script.after).filterMap (statementTable? dialect)) := by
    rw [List.filterMap_append, List.filterMap_cons, hstatement]
    cases result? <;> rfl
  rw [parse_dialectName, scriptTables_eq, htext, tablesIn, hstatements, hcons, List.mapM_append,
    List.mapM_append]
  change (tablesIn dialect script.before >>= fun front => _) = _
  cases tablesIn dialect script.before with
  | error failure => rfl
  | ok front =>
      change ((result?.toList.mapM id >>= fun own => _) >>= fun rest => _) = _
      cases result?.toList.mapM id with
      | error failure => rfl
      | ok own =>
          change ((tablesIn dialect script.after >>= fun back => _) >>= fun rest => _) = _
          cases tablesIn dialect script.after <;> rfl

theorem gives_of_statement (h : script.Creates dialect name) (htext : script.Spells text)
    (table? : Option Table) (hstatement : ∀ options,
      statementTable? dialect (script.head ++ '(' :: (script.body ++ ')' :: options))
        = table?.map .ok) : script.Gives dialect text table?.toList := by
  rw [Gives, h.parse_eq htext _ hstatement]
  cases table? <;> rfl

theorem statementTable?_eq (h : script.Creates dialect name) (hname : name ≠ "")
    (hdefinitions : script.definitionTexts ≠ []) (options : List Char) :
    statementTable? dialect (script.head ++ '(' :: (script.body ++ ')' :: options))
      = some (assemble name (script.creation dialect name).definitions) := by
  have hbody : Text.trim script.body ≠ [] :=
    trim_ne_nil_of_definitions (by rwa [h.definitions_body])
  rw [h.heading.statementTable?_eq h.balanced_body, if_neg (not_or.mpr ⟨hname, hbody⟩),
    h.definitions_body]
  rfl

/-- The script gives the table of its definitions, if the columns of the table name the tables that
they refer to. -/
theorem gives_table (h : script.Creates dialect name) (htext : script.Spells text)
    (hname : name ≠ "") (hdefinitions : script.definitionTexts ≠ [])
    (hnamed : (script.creation dialect name).Named) :
    script.Gives dialect text [(script.creation dialect name).table] := by
  refine h.gives_of_statement htext (some _) fun options => ?_
  rw [h.statementTable?_eq hname hdefinitions]
  exact congrArg some (Creation.assemble_eq (isLinked_creation script dialect name) hnamed)

theorem gives_nil (h : script.Creates dialect "") (htext : script.Spells text) :
    script.Gives dialect text [] := by
  refine h.gives_of_statement htext none fun options => ?_
  rw [h.heading.statementTable?_eq h.balanced_body, if_pos (Or.inl rfl)]
  rfl

/-- A script without other tables is read as its own table with a property exactly if the columns of
this table name the tables that they refer to and the table has the property. -/
theorem exists_parse_iff (h : script.Creates dialect name) (htext : script.Spells text)
    (halone : script.Alone dialect) (hname : name ≠ "") (hdefinitions : script.definitionTexts ≠ [])
    (P : Table → Prop) :
    (∃ table, parse text (some dialect.name) = .ok [table] ∧ P table) ↔
      (script.creation dialect name).Named ∧ P (script.creation dialect name).table := by
  have hlinked := isLinked_creation script dialect name
  have hparse : parse text (some dialect.name)
      = (assemble name (script.creation dialect name).definitions).map fun table => [table] := by
    rw [h.parse_eq htext _ (h.statementTable?_eq hname hdefinitions), halone.before, halone.after]
    change ([assemble _ _].mapM id >>= fun own => _) = _
    rw [List.mapM_cons]
    cases assemble name (script.creation dialect name).definitions <;> rfl
  constructor
  · rintro ⟨table, hread, hproperty⟩
    rw [hparse] at hread
    cases hassemble : assemble name (script.creation dialect name).definitions with
    | error failure =>
        rw [hassemble] at hread
        cases hread
    | ok found =>
        rw [hassemble] at hread
        cases hread
        have hnamed : (script.creation dialect name).Named :=
          (exists_assemble_eq_ok_iff hlinked).mp ⟨_, hassemble⟩
        have hfound := Creation.assemble_eq hlinked hnamed
        rw [show assemble (script.creation dialect name).name _ = .ok table from hassemble] at hfound
        cases hfound
        exact ⟨hnamed, hproperty⟩
  · rintro ⟨hnamed, hproperty⟩
    refine ⟨_, ?_, hproperty⟩
    rw [hparse, show assemble name _ = _ from Creation.assemble_eq hlinked hnamed]
    rfl

end Creates

variable {script : TableScript} {front back : List (List Char)} {part : List Char}

theorem definitionTexts_of_parts (hparts : script.parts = front ++ part :: back)
    (hpart : Text.trim part ≠ []) :
    script.definitionTexts = (front.map Text.trim).filter (!·.isEmpty)
      ++ Text.trim part :: (back.map Text.trim).filter (!·.isEmpty) := by
  rw [definitionTexts, hparts, List.map_append, List.map_cons, List.filter_append,
    List.filter_cons_of_pos]
  simpa using hpart

theorem definitionTexts_ne_nil_of_parts (hparts : script.parts = front ++ part :: back)
    (hpart : Text.trim part ≠ []) : script.definitionTexts ≠ [] := by
  rw [definitionTexts_of_parts hparts hpart]
  exact List.append_ne_nil_of_right_ne_nil _ (List.cons_ne_nil _ _)

/-- A definition has those in front of it before it and those behind it after it. -/
theorem definitions_creation_of_parts (hparts : script.parts = front ++ part :: back)
    (hpart : Text.trim part ≠ []) (dialect : Dialect) (name : String) :
    (script.creation dialect name).definitions
      = definitionsIn dialect front
        ++ readDefinition dialect (Text.trim part) :: definitionsIn dialect back := by
  rw [creation, definitionTexts_of_parts hparts hpart, List.map_append, List.map_cons]
  rfl

theorem columns_creation_of_parts (hparts : script.parts = front ++ part :: back)
    (hpart : Text.trim part ≠ []) {dialect : Dialect} {column : Column}
    (hcolumn : readDefinition dialect (Text.trim part) = .column column) (name : String) :
    (script.creation dialect name).columns
      = columnsIn dialect front ++ column :: columnsIn dialect back := by
  rw [Creation.columns, definitions_creation_of_parts hparts hpart, List.filterMap_append, hcolumn]
  rfl

theorem foreignKeys_creation_of_parts (hparts : script.parts = front ++ part :: back)
    (hpart : Text.trim part ≠ []) (dialect : Dialect) (name : String) :
    (script.creation dialect name).foreignKeys
      = foreignKeysIn dialect front
        ++ ((readDefinition dialect (Text.trim part)).foreign ++ foreignKeysIn dialect back) := by
  rw [Creation.foreignKeys, definitions_creation_of_parts hparts hpart, List.flatMap_append,
    List.flatMap_cons]
  rfl

theorem definitionsIn_append (dialect : Dialect) (front back : List (List Char)) :
    definitionsIn dialect (front ++ back)
      = definitionsIn dialect front ++ definitionsIn dialect back := by
  rw [definitionsIn, List.map_append, List.filter_append, List.map_append]
  rfl

theorem columnsIn_append (dialect : Dialect) (front back : List (List Char)) :
    columnsIn dialect (front ++ back) = columnsIn dialect front ++ columnsIn dialect back := by
  rw [columnsIn, definitionsIn_append, List.filterMap_append]
  rfl

theorem foreignKeysIn_append (dialect : Dialect) (front back : List (List Char)) :
    foreignKeysIn dialect (front ++ back)
      = foreignKeysIn dialect front ++ foreignKeysIn dialect back := by
  rw [foreignKeysIn, definitionsIn_append, List.flatMap_append]
  rfl

/-- What only one of the definitions adds is what this one adds. -/
theorem flatMap_definitions_of_parts {α : Type} (f : Definition → List α)
    (hparts : script.parts = front ++ part :: back) (hpart : Text.trim part ≠ []) {dialect : Dialect}
    (hothers : ∀ other ∈ front ++ back, f (readDefinition dialect (Text.trim other)) = [])
    (name : String) :
    (script.creation dialect name).definitions.flatMap f
      = f (readDefinition dialect (Text.trim part)) := by
  have hnone : ∀ parts : List (List Char), (∀ other ∈ parts, other ∈ front ++ back) →
      (definitionsIn dialect parts).flatMap f = [] := by
    intro parts hsub
    refine List.flatMap_eq_nil_iff.mpr fun definition hdefinition => ?_
    obtain ⟨text, htext, rfl⟩ := List.mem_map.mp hdefinition
    obtain ⟨other, hother, rfl⟩ := List.mem_map.mp (List.mem_filter.mp htext).1
    exact hothers other (hsub other hother)
  rw [definitions_creation_of_parts hparts hpart, List.flatMap_append, List.flatMap_cons,
    hnone front fun other => List.mem_append_left back,
    hnone back fun other => List.mem_append_right front, List.nil_append, List.append_nil]

/-- The script with further texts between commas behind the others. -/
def extended (script : TableScript) (more : List (List Char)) : TableScript :=
  { script with parts := script.parts ++ more }

theorem Creates.extended {dialect : Dialect} {name : String} (h : script.Creates dialect name)
    {more : List (List Char)} (hmore : ∀ part ∈ more, SelfContained ',' part) :
    (script.extended more).Creates dialect name where
  heading := h.heading
  parts := fun part hpart => (List.mem_append.mp hpart).elim (h.parts part) (hmore part)
  options := h.options
  before := h.before
  after := h.after

theorem definitionTexts_extended {more : List (List Char)}
    (hmore : ∀ part ∈ more, Text.trim part ≠ []) :
    (script.extended more).definitionTexts = script.definitionTexts ++ more.map Text.trim := by
  have hkept : (more.map Text.trim).filter (!·.isEmpty) = more.map Text.trim := by
    refine List.filter_eq_self.mpr fun text htext => ?_
    obtain ⟨part, hpart, rfl⟩ := List.mem_map.mp htext
    simpa using hmore part hpart
  rw [definitionTexts, TableScript.extended, List.map_append, List.filter_append, hkept]
  rfl

end TableScript

end RelSchema.Ddl
