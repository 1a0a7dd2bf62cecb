import RelSchema.Proofs.Ddl.Clause
import RelSchema.Proofs.Schema.Table
import RelSchema.Proofs.Sql.Alike

/-!
# Definitions up to the texts in them

A definition is read by the kinds of its tokens and the values of words and names. Positions and the
values of strings reach a column in two places only, the texts of its type and of its default. Alike
texts have the same tokens when positions and strings are masked, so they are definitions of the same
columns up to these two texts.
-/

namespace RelSchema

def Column.withoutTexts (column : Column) : Column :=
  { column with type := "", defaultValue := column.defaultValue.map fun _ => "" }

def Table.withoutTexts (table : Table) : Table :=
  { table with columns := table.columns.map Column.withoutTexts }

@[simp]
theorem Column.withoutTexts_name (column : Column) : column.withoutTexts.name = column.name := rfl

@[simp]
theorem Column.withoutTexts_isPrimaryKey (column : Column) :
    column.withoutTexts.isPrimaryKey = column.isPrimaryKey := rfl

theorem Column.withoutTexts_asForeignKey (column : Column) (table : String) (key : Option String) :
    (column.asForeignKey table key).withoutTexts = column.withoutTexts.asForeignKey table key := rfl

namespace Ddl

open Sql (Token)

def Definition.withoutTexts : Definition → Definition
  | column found => column found.withoutTexts
  | other => other

/-- The token without its place, and without its value if it is a string. -/
def masked (token : Token) : Token where
  kind := token.kind
  value := if token.kind = .string then "" else token.value
  start := 0
  stop := 0

theorem keeps_masked : Token.Keeps masked :=
  ⟨fun _ => rfl, fun hkind => if_neg hkind⟩

section Alike

variable {s t : List Char}

theorem masked_eq_of_alike {token other : Token} (h : Token.Alike s t token other) :
    masked token = masked other := by
  unfold masked
  rw [← h.kind]
  by_cases hstring : token.kind = .string
  · rw [if_pos hstring, if_pos hstring]
  · rw [if_neg hstring, if_neg hstring, h.value hstring]

theorem alike_readToken (dialect : Dialect) {token other : Token} (h : Token.Alike s t token other) :
    Token.Alike s t (readToken dialect token) (readToken dialect other) := by
  unfold readToken
  rw [← h.kind, ← h.quote]
  split_ifs
  · exact ⟨rfl, fun hkind => absurd rfl hkind, rfl, h.behind⟩
  · exact h

theorem alike_tokens (dialect : Dialect) (h : Sql.Alike none s t) :
    List.Forall₂ (Token.Alike s t) (tokens dialect s) (tokens dialect t) := by
  unfold tokens
  rw [List.forall₂_map_left_iff, List.forall₂_map_right_iff]
  exact h.tokenize.imp fun _ _ halike => alike_readToken dialect halike

theorem map_masked_eq {found others : List Token} (h : List.Forall₂ (Token.Alike s t) found others) :
    found.map masked = others.map masked := by
  induction h with
  | nil => rfl
  | cons htoken hrest ih => rw [List.map_cons, List.map_cons, masked_eq_of_alike htoken, ih]

end Alike

section Keeps

variable {f : Token → Token} (hf : Token.Keeps f)
include hf

theorem startsWith_map (words : List String) (tokens : List Token) :
    startsWith words (tokens.map f) = startsWith words tokens := by
  induction words generalizing tokens with
  | nil => rfl
  | cons word words ih =>
      cases tokens with
      | nil => rfl
      | cons token tokens => rw [List.map_cons, startsWith, startsWith, hf.isKeyword, ih]

theorem suffixLength_map (tokens : List Token) :
    suffixLength (tokens.map f) = suffixLength tokens := by
  unfold suffixLength
  have hstarts : (fun suffix => startsWith suffix (tokens.map f))
      = fun suffix => startsWith suffix tokens := by
    funext suffix
    exact startsWith_map hf suffix tokens
  rw [hstarts]

/-- The tokens behind a type do not depend on where the type ends. -/
theorem typeEnd_map (stop stop' : Nat) (tokens : List Token) :
    (typeEnd stop' (tokens.map f)).2 = (typeEnd stop tokens).2.map f := by
  induction stop, tokens using typeEnd.induct generalizing stop' with
  | case1 stop tokens group hgroup ih =>
      have hgroup' := hf.group? tokens
      rw [hgroup] at hgroup'
      rw [typeEnd_of_group hgroup, typeEnd_of_group hgroup']
      exact ih _
  | case2 stop tokens hgroup hend =>
      have hgroup' := hf.group? tokens
      rw [hgroup] at hgroup'
      have hend' : suffixLength (tokens.map f) = 0 ∨ tokens.map f = [] := by
        rwa [suffixLength_map hf, List.map_eq_nil_iff]
      rw [typeEnd_of_end hgroup hend, typeEnd_of_end hgroup' hend']
  | case3 stop tokens hgroup hend last ih =>
      have hgroup' := hf.group? tokens
      rw [hgroup] at hgroup'
      have hend' : ¬(suffixLength (tokens.map f) = 0 ∨ tokens.map f = []) := by
        rwa [suffixLength_map hf, List.map_eq_nil_iff]
      rw [typeEnd_of_suffix hgroup hend, typeEnd_of_suffix hgroup' hend', suffixLength_map hf,
        ← List.map_drop]
      exact ih _

theorem columnName_map {token : Token} (hkind : token.kind ≠ .string) :
    columnName (f token) = columnName token := by
  rw [columnName, columnName, hf.kind, hf.value hkind]

theorem constraintKeys_map (tokens : List Token) :
    constraintKeys (tokens.map f) = constraintKeys tokens := by
  rw [constraintKeys, constraintKeys, reference?_map hf]
  cases reference? tokens with
  | none => rfl
  | some reference => exact congrArg (fun names => pairColumns _ names _) (hf.listedNames tokens)

theorem default?_map (text text' : List Char) (tokens : List Token) :
    (default? text' (tokens.map f)).map (fun _ => "") = (default? text tokens).map fun _ => "" := by
  unfold default?
  rw [dropWhile_isKeyword_map hf]
  cases tokens.dropWhile (!·.isKeyword ["DEFAULT"]) with
  | nil => rfl
  | cons keyword clause => cases clause <;> rfl

theorem withoutTexts_readColumn (text text' : List Char) {name type : Token}
    (hname : name.kind ≠ .string) (htype : type.kind ≠ .string) (rest : List Token) :
    (readColumn text' (f name) (f type) (rest.map f)).withoutTexts
      = (readColumn text name type rest).withoutTexts := by
  have hend := typeEnd_map hf type.stop (f type).stop rest
  have hwords := bareWords_map hf (typeEnd type.stop rest).2
  have hdefault := default?_map hf text text' (typeEnd type.stop rest).2
  unfold bareWords at hwords
  unfold readColumn
  dsimp only
  rw [hend, hwords, reference?_map hf, hf.upper htype, columnName_map hf hname]
  cases reference? (typeEnd type.stop rest).2 with
  | none =>
      unfold Column.withoutTexts
      dsimp only
      rw [hdefault]
  | some reference =>
      dsimp only
      rw [Column.withoutTexts_asForeignKey, Column.withoutTexts_asForeignKey]
      unfold Column.withoutTexts
      dsimp only
      rw [hdefault]

theorem withoutTexts_column? (text text' : List Char) (tokens : List Token) :
    (column? text' (tokens.map f)).map Column.withoutTexts
      = (column? text tokens).map Column.withoutTexts := by
  match tokens with
  | [] | [_] => rfl
  | name :: type :: rest =>
      rw [List.map_cons, List.map_cons, column?, column?, hf.isName, hf.kind]
      by_cases hname : name.isName = true
      · have hkind := kind_ne_string_of_isName hname
        rw [columnName_map hf hkind]
        by_cases hcolumn : (name.isName && type.kind == .word && columnName name != "") = true
        · have htype : type.kind ≠ .string := by
            simp only [Bool.and_eq_true, beq_iff_eq] at hcolumn
            rw [hcolumn.1.2]
            decide
          rw [if_pos hcolumn, if_pos hcolumn, Option.map_some, Option.map_some,
            withoutTexts_readColumn hf text text' hkind htype]
        · rw [if_neg hcolumn, if_neg hcolumn]
      · rw [Bool.eq_false_iff.mpr hname]
        rfl

end Keeps

/-- Alike definitions differ in the texts of their columns only. -/
theorem withoutTexts_readDefinition (dialect : Dialect) {s t : List Char}
    (h : Sql.Alike none s t) :
    (readDefinition dialect s).withoutTexts = (readDefinition dialect t).withoutTexts := by
  have hmasked := map_masked_eq (alike_tokens dialect h)
  have hstarts : ∀ words, startsWith words (tokens dialect s)
      = startsWith words (tokens dialect t) := by
    intro words
    rw [← startsWith_map keeps_masked, hmasked, startsWith_map keeps_masked]
  have hnames : Sql.listedNames ((tokens dialect s).drop 2)
      = Sql.listedNames ((tokens dialect t).drop 2) := by
    rw [← keeps_masked.listedNames, List.map_drop, hmasked, ← List.map_drop,
      keeps_masked.listedNames]
  have hkeys : constraintKeys ((tokens dialect s).drop 2)
      = constraintKeys ((tokens dialect t).drop 2) := by
    rw [← constraintKeys_map keeps_masked, List.map_drop, hmasked, ← List.map_drop,
      constraintKeys_map keeps_masked]
  have hignored : (tokens dialect s).head?.any (·.isKeyword ignoredConstraints)
      = (tokens dialect t).head?.any (·.isKeyword ignoredConstraints) := by
    have hhead := congrArg (fun tokens => tokens.head?.any (·.isKeyword ignoredConstraints)) hmasked
    simpa only [List.head?_map, Option.any_map, Function.comp_def, keeps_masked.isKeyword]
      using hhead
  have hcolumn : (column? s (tokens dialect s)).map Column.withoutTexts
      = (column? t (tokens dialect t)).map Column.withoutTexts := by
    rw [← withoutTexts_column? keeps_masked s [], hmasked, withoutTexts_column? keeps_masked t []]
  unfold readDefinition
  dsimp only
  rw [hstarts, hstarts, hnames, hkeys, hignored]
  split_ifs
  · rfl
  · rfl
  · rfl
  · generalize column? s (tokens dialect s) = found at hcolumn
    generalize column? t (tokens dialect t) = other at hcolumn
    cases found with
    | none =>
        cases other with
        | none => rfl
        | some column => cases hcolumn
    | some column =>
        cases other with
        | none => cases hcolumn
        | some column' => exact congrArg Definition.column (Option.some.inj hcolumn)

theorem declareKey_withoutTexts (names : List String) (columns : List Column) :
    declareKey names (columns.map Column.withoutTexts)
      = (declareKey names columns).map Column.withoutTexts := by
  unfold declareKey
  by_cases hnames : names.isEmpty = true
  · rw [if_pos hnames, if_pos hnames]
  · rw [if_neg hnames, if_neg hnames, List.map_map, List.map_map]
    congr 1
    funext column
    dsimp only [Function.comp_apply]
    rw [Column.withoutTexts_name]
    split_ifs <;> rfl

theorem applyForeignKey_withoutTexts (columns : List Column) (key : ForeignKey) :
    applyForeignKey (columns.map Column.withoutTexts) key
      = (applyForeignKey columns key).map Column.withoutTexts := by
  unfold applyForeignKey
  rw [List.map_map, List.map_map]
  congr 1
  funext column
  dsimp only [Function.comp_apply]
  rw [Column.withoutTexts_name]
  split_ifs <;> rfl

theorem foldl_applyForeignKey_withoutTexts (keys : List ForeignKey) (columns : List Column) :
    keys.foldl applyForeignKey (columns.map Column.withoutTexts)
      = (keys.foldl applyForeignKey columns).map Column.withoutTexts := by
  induction keys generalizing columns with
  | nil => rfl
  | cons key keys ih => rw [List.foldl_cons, List.foldl_cons, applyForeignKey_withoutTexts, ih]

end Ddl

end RelSchema
