import Mathlib.Data.List.Nodup
import RelSchema.Proofs.Ddl.Rendered
import RelSchema.Proofs.Schema.Table

/-!
# Declared keys

A key of several columns is declared in a definition of its own, which is read back as the names of
the key. The columns under a declared key are marked by it alone, and a table whose marks agree with
its key comes back with this key in order.
-/

namespace RelSchema.Ddl

open Sql (Token Balanced SelfContained)
open Sql.Pending (wordToken runToken parenToken)

theorem kind_wordToken (start : Nat) (letters : List Char) (stop : Nat) :
    (wordToken start letters stop).kind = .word := rfl

theorem groupFrom?_append_closing {tokens : List Token} (htokens : ∀ token ∈ tokens,
    token.kind ≠ .opening ∧ token.kind ≠ .closing) {close : Token} (hclose : close.kind = .closing)
    (rest : List Token) :
    Sql.groupFrom? 0 (tokens ++ close :: rest) = some ⟨tokens, close, rest⟩ := by
  induction tokens with
  | nil => simp only [List.nil_append, Sql.groupFrom?, hclose]
  | cons token tokens ih =>
      obtain ⟨hopen, hclose'⟩ := htokens token List.mem_cons_self
      rw [List.cons_append, Sql.groupFrom?_other hopen hclose',
        ih fun other hother => htokens other (List.mem_cons_of_mem token hother)]
      rfl

def keyNames (dialect : Dialect) (names : List String) : List Char :=
  [',', ' '].intercalate (names.map fun name => Naming.enclosed dialect.quoteChar name.toList)

theorem selfContained_keyNames (dialect : Dialect) (names : List String) :
    SelfContained ';' (keyNames dialect names) := by
  induction names with
  | nil => exact .nil ';'
  | cons name rest ih =>
      have hname : SelfContained ';' (Naming.enclosed dialect.quoteChar name.toList) :=
        .enclosed (isQuote_quoteChar dialect) name.toList
      cases rest with
      | nil => simpa [keyNames] using hname
      | cons next rest =>
          have hsplit : keyNames dialect (name :: next :: rest)
              = Naming.enclosed dialect.quoteChar name.toList ++ [',', ' ']
                ++ keyNames dialect (next :: rest) := by
            simp only [keyNames, List.map_cons, List.intercalate_cons_cons]
          rw [hsplit]
          refine (hname.append (b := [',', ' ']) (by decide) ?_).append ih ?_
          · intro c _ d hd
            cases hd
            exact Sql.isMark_of_right (by decide) (by decide)
          · intro c hc d _
            rw [List.getLast?_append] at hc
            cases hc
            exact Sql.isMark_of_left (by decide) (by decide)

theorem namesFrom_name (dialect : Dialect) (name : String) (start stop : Nat) (tokens : List Token) :
    Sql.namesFrom 0 (runToken dialect.quoteChar start name.toList.reverse stop :: tokens)
      = name :: Sql.namesFrom 0 tokens := by
  simp only [Sql.namesFrom, kind_runToken_quoteChar]
  simp [runToken]

theorem namesFrom_comma (start stop : Nat) (tokens : List Token) :
    Sql.namesFrom 0 (wordToken start [','].reverse stop :: tokens) = Sql.namesFrom 0 tokens := by
  have hnone : Sql.wordNames (.ofList [',']) = [] := by decide
  simp only [Sql.namesFrom, kind_wordToken, value_wordToken, hnone]
  rfl

section Tokens

variable (dialect : Dialect) (position : Nat) (name : String)

theorem tokensAt_keyNames_singleton (rest : List Char) :
    tokensAt dialect position (keyNames dialect [name] ++ ')' :: rest)
      = runToken dialect.quoteChar position name.toList.reverse
            (position + (Naming.enclosed dialect.quoteChar name.toList).length)
          :: tokensAt dialect (position + (Naming.enclosed dialect.quoteChar name.toList).length)
            (')' :: rest) := by
  rw [keyNames, List.map_singleton, List.intercalate_singleton, tokensAt_name]
  rintro c ⟨rfl⟩
  cases dialect <;> decide

theorem tokensAt_keyNames_cons (next : String) (others : List String) (rest : List Char) :
    ∃ stop, tokensAt dialect position (keyNames dialect (name :: next :: others) ++ rest)
      = runToken dialect.quoteChar position name.toList.reverse stop
          :: wordToken stop [','].reverse (stop + 1)
          :: tokensAt dialect (stop + 1 + 1) (keyNames dialect (next :: others) ++ rest) := by
  have hsplit : keyNames dialect (name :: next :: others) ++ rest
      = Naming.enclosed dialect.quoteChar name.toList ++ ([','] ++ (' ' ::
        (keyNames dialect (next :: others) ++ rest))) := by
    simp only [keyNames, List.map_cons, List.intercalate_cons_cons, List.append_assoc,
      List.cons_append, List.nil_append]
  refine ⟨position + (Naming.enclosed dialect.quoteChar name.toList).length, ?_⟩
  rw [hsplit, tokensAt_name, tokensAt_word dialect _ (by decide) (by decide), tokensAt_space]
  · rfl
  · rintro c ⟨rfl⟩
    decide
  · rintro c ⟨rfl⟩
    cases dialect <;> decide

end Tokens

/-- The tokens between the parentheses of a key name its columns. -/
theorem exists_tokens_keyNames (dialect : Dialect) (position : Nat) (names : List String)
    (rest : List Char) :
    ∃ tokens next, tokensAt dialect position (keyNames dialect names ++ ')' :: rest)
        = tokens ++ tokensAt dialect next (')' :: rest) ∧
      (∀ token ∈ tokens, token.kind ≠ .opening ∧ token.kind ≠ .closing) ∧
      Sql.namesFrom 0 tokens = names := by
  have hname : ∀ start (content : List Char) stop,
      (runToken dialect.quoteChar start content stop).kind ≠ .opening ∧
        (runToken dialect.quoteChar start content stop).kind ≠ .closing := by
    intro start content stop
    rw [kind_runToken_quoteChar]
    decide
  induction names generalizing position with
  | nil => exact ⟨[], position, rfl, by simp, rfl⟩
  | cons name others ih =>
      cases others with
      | nil =>
          refine ⟨_, _, tokensAt_keyNames_singleton dialect position name rest, ?_,
            namesFrom_name dialect name position _ []⟩
          exact List.forall_mem_singleton.mpr (hname _ _ _)
      | cons second others =>
          obtain ⟨stop, hsplit⟩ :=
            tokensAt_keyNames_cons dialect position name second others (')' :: rest)
          obtain ⟨tokens, next, htokens, hflat, hnames⟩ := ih (stop + 1 + 1)
          refine ⟨_ :: _ :: tokens, next, by rw [hsplit, htokens]; rfl, ?_, ?_⟩
          · refine List.forall_mem_cons.mpr ⟨hname _ _ _, List.forall_mem_cons.mpr ⟨?_, hflat⟩⟩
            rw [kind_wordToken]
            decide
          · rw [namesFrom_name, namesFrom_comma, hnames]

def keyWords : List Char := "PRIMARY KEY ".toList

theorem keyWords_eq : keyWords = "PRIMARY".toList ++ ' ' :: ("KEY".toList ++ [' ']) := by
  decide

def keyText (dialect : Dialect) (names : List String) : List Char :=
  keyWords ++ ('(' :: keyNames dialect names ++ [')'])

theorem toList_keyClause (dialect : Dialect) (keys : List String) :
    (keyClause dialect keys).map String.toList
      = if keys.length ≤ 1 then [] else [keyText dialect keys] := by
  have hopen : "PRIMARY KEY (".toList = keyWords ++ ['('] := by decide
  have hclose : ")".toList = [')'] := by decide
  have hcomma : ", ".toList = [',', ' '] := by decide
  have hnames : (keys.map (Naming.quoteIdentifier dialect)).map String.toList
      = keys.map fun name => Naming.enclosed dialect.quoteChar name.toList := by
    rw [List.map_map]
    exact List.map_congr_left fun name _ => String.toList_ofList
  unfold keyClause
  split
  · rfl
  · simp only [List.map_singleton, String.toList_append, Text.joinWith, String.toList_intercalate,
      hnames, hopen, hclose, hcomma, keyText, keyNames, List.append_assoc, List.cons_append,
      List.nil_append]

theorem eq_keyText_of_mem {dialect : Dialect} {keys : List String} {text : List Char}
    (h : text ∈ (keyClause dialect keys).map String.toList) : text = keyText dialect keys := by
  rw [toList_keyClause] at h
  split_ifs at h
  · cases h
  · exact List.mem_singleton.mp h

/-- What holds of the definitions of all columns and of the key holds of all clauses. -/
theorem forall_mem_clauseTexts {dialect : Dialect} {table : Table} {P : List Char → Prop}
    (hcolumns : ∀ column ∈ table.columns, P (columnText dialect table.keyColumns column))
    (hkey : P (keyText dialect table.keyColumns)) :
    ∀ clause ∈ clauseTexts dialect table, P clause := by
  intro clause hclause
  rcases List.mem_append.mp hclause with hcolumn | hdeclared
  · obtain ⟨column, hmem, rfl⟩ := List.mem_map.mp hcolumn
    exact hcolumns column hmem
  · rw [eq_keyText_of_mem hdeclared]
    exact hkey

theorem standing_keyText (dialect : Dialect) (names : List String) :
    Standing (keyText dialect names) := by
  have hinner := selfContained_keyNames dialect names
  have hwords : SelfContained ',' keyWords := by decide
  have hgroup : SelfContained ',' ('(' :: keyNames dialect names ++ [')']) :=
    .parenthesized ',' hinner.balanced hinner.unmarked
  have hfirst : ∀ c ∈ keyWords.head?, Text.isBlank c = false := by decide
  rw [keyText]
  refine ⟨hwords.append hgroup ?_, by simp, ?_, ?_⟩
  · intro c _ d hd
    cases hd
    exact Sql.isMark_of_right (by decide) (by decide)
  · exact head?_append_of hfirst (by
      intro c hc
      cases hc
      decide)
  · intro c hc
    rw [List.getLast?_append, List.getLast?_append] at hc
    cases hc
    decide

/-- The definition of a key is read as the names of the key. -/
theorem readDefinition_keyText (dialect : Dialect) (names : List String) :
    readDefinition dialect (keyText dialect names) = .primaryKey names := by
  have hspace : ∀ s : List Char, ∀ c ∈ (' ' :: s).head?, Sql.isWordPart c = false := by
    intro s c hc
    cases hc
    decide
  obtain ⟨inner, next, hinner, hflat, hnames⟩ :=
    exists_tokens_keyNames dialect 13 names []
  have htokens : tokens dialect (keyText dialect names)
      = wordToken 0 "PRIMARY".toList.reverse 7 :: wordToken 8 "KEY".toList.reverse 11
        :: parenToken .opening '(' 12 :: (inner ++ [parenToken .closing ')' next]) := by
    have hsplit : keyText dialect names = "PRIMARY".toList ++ ' ' :: ("KEY".toList ++ ' ' ::
        '(' :: (keyNames dialect names ++ [')'])) := by
      simp only [keyText, keyWords_eq, List.append_assoc, List.cons_append, List.nil_append]
    rw [tokens_eq_tokensAt, hsplit, tokensAt_word dialect _ (by decide) (by decide) (hspace _),
      tokensAt_space, tokensAt_word dialect _ (by decide) (by decide) (hspace _), tokensAt_space,
      tokensAt_opening]
    have hclose : tokensAt dialect next [')'] = [parenToken .closing ')' next] :=
      tokensAt_closing dialect next []
    rw [← hclose, ← hinner]
    rfl
  have hstarts : startsWith ["PRIMARY", "KEY"] (tokens dialect (keyText dialect names)) = true := by
    rw [htokens, startsWith, startsWith, isKeyword_wordToken, isKeyword_wordToken, startsWith]
    decide
  rw [readDefinition, if_pos hstarts, htokens, List.drop_succ_cons, List.drop_succ_cons,
    List.drop_zero, Sql.listedNames, Sql.group?_opening rfl, groupFrom?_append_closing hflat rfl,
    Option.map_some, hnames]
  rfl

/-- Whether no two of the names are the same up to case. -/
def DistinctFolds (names : List String) : Prop :=
  (names.map Text.fold).Nodup

theorem DistinctFolds.nodup {names : List String} (h : DistinctFolds names) : names.Nodup :=
  List.Nodup.of_map _ h

theorem DistinctFolds.eq_of_sameFold {names : List String} (h : DistinctFolds names)
    {name other : String} (hname : name ∈ names) (hother : other ∈ names)
    (hsame : Text.sameFold name other = true) : name = other :=
  List.inj_on_of_nodup_map h hname hother (by simpa [Text.sameFold] using hsame)

theorem sameFold_self (name : String) : Text.sameFold name name = true := by
  simp [Text.sameFold]

/-- Among distinct names, one is a key name up to case exactly if it is a key name. -/
theorem DistinctFolds.any_sameFold_iff {names keys : List String} (h : DistinctFolds names)
    (hkeys : keys ⊆ names) {name : String} (hname : name ∈ names) :
    keys.any (Text.sameFold name) = true ↔ name ∈ keys := by
  rw [List.any_eq_true]
  constructor
  · rintro ⟨key, hkey, hsame⟩
    rwa [h.eq_of_sameFold hname (hkeys hkey) hsame]
  · exact fun hmem => ⟨name, hmem, sameFold_self name⟩

theorem isEmpty_eq_false_of_not_le {keys : List String} (h : ¬ keys.length ≤ 1) :
    keys.isEmpty = false := by
  rw [List.isEmpty_eq_false_iff]
  rintro rfl
  exact h (Nat.zero_le 1)

def declaredKey (keys : List String) : List String :=
  if keys.length ≤ 1 then [] else keys

/-- A column under the key: a declared key alone marks it. -/
def underKey (keys : List String) (column : Column) : Column :=
  if keys.length ≤ 1 then column
  else if column.name ∈ keys then column.asPrimaryKey
  else { column with isPrimaryKey := false }

theorem name_underKey (keys : List String) (column : Column) :
    (underKey keys column).name = column.name := by
  rw [underKey]
  split_ifs <;> rfl

theorem declareKey_declaredKey {keys : List String} {columns : List Column}
    (hdistinct : DistinctFolds (columns.map (·.name))) (hkeys : keys ⊆ columns.map (·.name)) :
    declareKey (declaredKey keys) columns = columns.map (underKey keys) := by
  by_cases hshort : keys.length ≤ 1
  · have hsame : underKey keys = id := funext fun column => if_pos hshort
    rw [declaredKey, if_pos hshort, hsame, List.map_id]
    rfl
  · have hne := isEmpty_eq_false_of_not_le hshort
    rw [declaredKey, if_neg hshort, declareKey, if_neg (by rw [hne]; exact Bool.false_ne_true)]
    refine List.map_congr_left fun column hcolumn => ?_
    have hiff := hdistinct.any_sameFold_iff hkeys (List.mem_map_of_mem hcolumn)
    rw [underKey, if_neg hshort]
    by_cases hmem : column.name ∈ keys
    · rw [if_pos hmem, if_pos (hiff.mpr hmem)]
    · rw [if_neg hmem, if_neg (mt hiff.mp hmem)]

theorem columnSpelling_eq {columns : List Column} (hdistinct : DistinctFolds (columns.map (·.name)))
    {key : String} (hkey : key ∈ columns.map (·.name)) : columnSpelling columns key = key := by
  rw [columnSpelling]
  cases hfind : columns.reverse.find? fun column => Text.sameFold column.name key with
  | none => rfl
  | some found =>
      have hfound : found ∈ columns := List.mem_reverse.mp (List.mem_of_find?_eq_some hfind)
      have hsame := List.find?_some hfind
      have hname : found.name ∈ columns.map (·.name) := List.mem_map_of_mem hfound
      exact hdistinct.eq_of_sameFold hname hkey hsame

theorem distinct_eq_self {names : List String} (hnodup : names.Nodup) : distinct names = names := by
  induction names with
  | nil => rfl
  | cons name rest ih =>
      rw [List.nodup_cons] at hnodup
      rw [distinct, ih hnodup.2, List.filter_eq_self.mpr]
      intro other hother
      simpa using fun h : other = name => hnodup.1 (h ▸ hother)

/-- A list without repetitions and with at most one element is kept by the filter for its
elements. -/
theorem filter_mem_eq {names keys : List String} (hnodup : names.Nodup) (hkeys : keys ⊆ names)
    (hshort : keys.length ≤ 1) : names.filter (· ∈ keys) = keys := by
  cases keys with
  | nil => simp
  | cons key rest =>
      obtain rfl : rest = [] := by
        cases rest with
        | nil => rfl
        | cons other rest => simp at hshort
      have hmem : key ∈ names := hkeys List.mem_cons_self
      simp only [List.mem_singleton]
      rw [List.filter_eq, List.count_eq_one_of_mem hnodup hmem]
      rfl

/-- The key of a table whose marks agree with it is read in the order in which it was written. -/
theorem primaryKeyOrder_eq {keys : List String} {columns : List Column}
    (hdistinct : DistinctFolds (columns.map (·.name))) (hnodup : keys.Nodup)
    (hkeys : keys ⊆ columns.map (·.name))
    (hmarks : keys.length ≤ 1 → ∀ column ∈ columns, column.isPrimaryKey = decide (column.name ∈ keys)) :
    primaryKeyOrder (columns.map (underKey keys)) (declaredKey keys) = keys := by
  by_cases hshort : keys.length ≤ 1
  · have hsame : underKey keys = id := funext fun column => if_pos hshort
    have hfilter : columns.filter (·.isPrimaryKey) = columns.filter fun column => column.name ∈ keys :=
      List.filter_congr (hmarks hshort)
    have hnames : (columns.filter fun column => column.name ∈ keys).map (·.name)
        = (columns.map (·.name)).filter (· ∈ keys) := by
      rw [List.filter_map]
      rfl
    rw [declaredKey, if_pos hshort, hsame, List.map_id, primaryKeyOrder, if_pos List.isEmpty_nil,
      hfilter, hnames, filter_mem_eq hdistinct.nodup hkeys hshort]
  · have hne := isEmpty_eq_false_of_not_le hshort
    have hnames : (columns.map (underKey keys)).map (·.name) = columns.map (·.name) := by
      rw [List.map_map]
      exact List.map_congr_left fun column _ => name_underKey keys column
    have hspelled : keys.map (columnSpelling (columns.map (underKey keys))) = keys := by
      refine (List.map_congr_left fun key hkey => ?_).trans (List.map_id keys)
      exact columnSpelling_eq (by rw [hnames]; exact hdistinct) (by rw [hnames]; exact hkeys hkey)
    rw [declaredKey, if_neg hshort, primaryKeyOrder, if_neg (by rw [hne]; exact Bool.false_ne_true),
      hspelled, distinct_eq_self hnodup]

end RelSchema.Ddl
