import RelSchema.Dbml.Column
import RelSchema.Dbml.Line
import RelSchema.Dbml.Reference
import RelSchema.Proofs.Text.Class
import RelSchema.Proofs.Text.Cut
import RelSchema.Proofs.Text.Trim

/-!
# Names and paths in quotes

In quotes a name may hold blanks, signs and commas. The header of a table, the line of a column and
the path of a target read the same name from the same quotes.

A reference is read as a path, a sign and a path. Quotes do not matter to where a path ends: the
first one ends at a blank or at a sign, and the second one at a blank, wherever these stand.
-/

namespace RelSchema.Dbml

/-- The characters that a name in quotes cannot hold. -/
def reservedChars : List Char :=
  quotes ++ ['[', ']', '{', '}', '.', '/']

/-- Whether a name can stand in quotes wherever the notation has names. -/
structure IsName (name : String) : Prop where
  ne_empty : name ≠ ""
  plain : ∀ c ∈ name.toList, c ∉ reservedChars
  unbroken : ∀ c ∈ name.toList, Text.isLineBreak c = false
  head : ∀ c ∈ name.toList.head?, Text.isBlank c = false
  last : ∀ c ∈ name.toList.getLast?, Text.isBlank c = false

instance (name : String) : Decidable (IsName name) :=
  decidable_of_iff
    (name ≠ "" ∧ (∀ c ∈ name.toList, c ∉ reservedChars) ∧
      (∀ c ∈ name.toList, Text.isLineBreak c = false) ∧
      (∀ c ∈ name.toList.head?, Text.isBlank c = false) ∧
      ∀ c ∈ name.toList.getLast?, Text.isBlank c = false)
    ⟨fun ⟨hne, hplain, hunbroken, hhead, hlast⟩ => ⟨hne, hplain, hunbroken, hhead, hlast⟩,
      fun h => ⟨h.ne_empty, h.plain, h.unbroken, h.head, h.last⟩⟩

def inQuotes (name : String) : List Char :=
  '"' :: (name.toList ++ ['"'])

variable {name : String}

theorem IsName.ne_nil (h : IsName name) : name.toList ≠ [] :=
  fun hnil => h.ne_empty (String.toList_eq_nil_iff.mp hnil)

theorem IsName.not_mem {c : Char} (h : IsName name) (hc : c ∈ reservedChars) : c ∉ name.toList :=
  fun hmem => h.plain c hmem hc

theorem trim_of_quotes {s : List Char} (hfirst : s.head? = some '"')
    (hlast : s.getLast? = some '"') : Text.trim s = s := by
  have hquote : Text.isBlank '"' = false := by decide
  refine Text.trim_eq_self (fun c hc => ?_) fun c hc => ?_
  · rwa [← Option.some.inj (hfirst.symm.trans hc)]
  · rwa [← Option.some.inj (hlast.symm.trans hc)]

theorem getLast?_inQuotes (name : String) : (inQuotes name).getLast? = some '"' := by
  rw [inQuotes, ← List.cons_append, List.getLast?_concat]

theorem IsName.unquoteIdentifier (h : IsName name) :
    Naming.unquoteIdentifier (.ofList (inQuotes name)) = name := by
  set marks : List Char := ['\x60', '"', '\'', '[', ']']
  have hplain : ∀ c ∈ name.toList, marks.contains c = false := by
    intro c hc
    have hreserved : ∀ c ∈ marks, c ∈ reservedChars := by decide
    simpa using fun hmem => h.plain c hc (hreserved c hmem)
  have hleft : (inQuotes name).dropWhile marks.contains = name.toList ++ ['"'] := by
    rw [inQuotes, List.dropWhile_cons_of_pos (by decide)]
    obtain ⟨first, rest, hname⟩ := List.exists_cons_of_ne_nil h.ne_nil
    rw [hname] at hplain ⊢
    rw [List.cons_append, List.dropWhile_cons_of_neg]
    rw [hplain first List.mem_cons_self]
    exact Bool.false_ne_true
  have hright : Text.dropEndWhile marks.contains (name.toList ++ ['"']) = name.toList := by
    rw [Text.dropEndWhile_append_of_all (by decide), Text.dropEndWhile_eq_self]
    exact fun c hc => hplain c (List.mem_of_mem_getLast? hc)
  rw [Naming.unquoteIdentifier, String.toList_ofList, trim_of_quotes rfl (getLast?_inQuotes name),
    Text.trimSet, hleft, hright, String.ofList_toList]

theorem dropQuoted?_inQuotes (h : IsName name) (rest : List Char) :
    dropQuoted? '"' (inQuotes name ++ rest) = some rest := by
  have hcut : Text.cutAt? '"' (name.toList ++ '"' :: rest) = some (name.toList, rest) :=
    Text.cutAt?_append (h.not_mem (by decide)) rest
  have hsplit : inQuotes name ++ rest = '"' :: (name.toList ++ '"' :: rest) := by
    simp [inQuotes]
  obtain ⟨first, tail, hname⟩ := List.exists_cons_of_ne_nil h.ne_nil
  rw [hname] at hcut hsplit
  rw [hsplit, dropQuoted?, beq_self_eq_true, if_pos rfl, hcut]

/-- A name in quotes is read first of all as what the quotes enclose. -/
theorem exists_names_inQuotes (h : IsName name) {rest : List Char} (hrest : rest.head? ≠ some '.') :
    ∃ others, names (inQuotes name ++ rest) = (inQuotes name, rest) :: others := by
  have hpart : dropPart? (inQuotes name ++ rest) = none := by
    rw [dropPart?, dropQuoted?_inQuotes h]
    cases rest with
    | nil => rfl
    | cons c rest =>
        have hc : c ≠ '.' := fun hdot => hrest (congrArg some hdot)
        simp [hc]
  have hafter : ∃ others, afterName (inQuotes name ++ rest) = rest :: others := by
    rw [afterName]
    split
    · next behind hbehind =>
      rw [hpart] at hbehind
      cases hbehind
    · rw [afterLastPart, dropQuoted?_inQuotes h]
      exact ⟨_, rfl⟩
  obtain ⟨others, hothers⟩ := hafter
  refine ⟨others.map fun rest' =>
    ((inQuotes name ++ rest).take ((inQuotes name ++ rest).length - rest'.length), rest'), ?_⟩
  rw [names, hothers, List.map_cons, List.length_append, Nat.add_sub_cancel, List.take_left]

theorem tableName_inQuotes (h : IsName name) : tableName (inQuotes name) = name := by
  have hdrop : (inQuotes name).dropLast = [] ++ '"' :: name.toList := by
    rw [inQuotes, ← List.cons_append, List.dropLast_concat, List.nil_append]
  rw [tableName, getLast?_inQuotes, hdrop]
  dsimp only
  rw [if_pos (by decide), Text.cutAtLast?_append [] (h.not_mem (by decide))]
  exact String.ofList_toList

theorem header?_inQuotes (h : IsName name) :
    header? ("Table ".toList ++ (inQuotes name ++ " \x7b".toList)) = some name := by
  have hbehind : (Text.dropKeyword? "table".toList
      ("Table ".toList ++ (inQuotes name ++ " \x7b".toList)) >>= dropBlanks?)
      = some (inQuotes name ++ " \x7b".toList) := rfl
  have hend : (isAliasedHeaderEnd " \x7b".toList || isHeaderEnd " \x7b".toList) = true := by decide
  obtain ⟨others, hnames⟩ :=
    exists_names_inQuotes h (show " \x7b".toList.head? ≠ some '.' by decide)
  have hfound : (names (inQuotes name ++ " \x7b".toList)).find?
      (fun cut => isAliasedHeaderEnd cut.2 || isHeaderEnd cut.2)
      = some (inQuotes name, " \x7b".toList) := by
    rw [hnames]
    exact List.find?_cons_of_pos hend
  rw [header?, hbehind]
  dsimp only
  rw [hfound]
  exact congrArg some (tableName_inQuotes h)

theorem column?_inQuotes (h : IsName name) :
    column? (inQuotes name ++ " integer".toList) = some { name, type := "integer" } := by
  have hline : columnLine? (inQuotes name ++ " integer".toList)
      = some { name := inQuotes name, type := "integer".toList, settings := [] } := by
    have htype : typeAndSettings? " integer".toList = some ("integer".toList, []) := by decide
    obtain ⟨others, hnames⟩ :=
      exists_names_inQuotes h (show " integer".toList.head? ≠ some '.' by decide)
    rw [columnLine?, hnames, List.findSome?_cons]
    dsimp only
    rw [htype]
    rfl
  rw [column?, hline, Option.map_some, h.unquoteIdentifier]
  rfl

def quotedPath (target : Target) : List Char :=
  inQuotes target.table ++ '.' :: inQuotes target.column

theorem getLast?_quotedPath (target : Target) : (quotedPath target).getLast? = some '"' := by
  rw [quotedPath, List.getLast?_append, List.getLast?_cons, getLast?_inQuotes]
  rfl

theorem target?_quotedPath {target : Target} (htable : IsName target.table)
    (hcolumn : IsName target.column) : target? (quotedPath target) = some target := by
  have hcomma : Text.dropEndWhile (· == ',') (quotedPath target) = quotedPath target := by
    refine Text.dropEndWhile_eq_self ?_
    rw [getLast?_quotedPath]
    rintro c ⟨rfl⟩
    decide
  have hdot : ∀ {name : String}, IsName name → ∀ c ∈ inQuotes name, (c == '.') = false := by
    intro name hname c hc
    refine beq_eq_false_iff_ne.mpr fun hdot => ?_
    rw [hdot, inQuotes, List.mem_cons, List.mem_append, List.mem_singleton] at hc
    rcases hc with hc | hc | hc
    · exact absurd hc (by decide)
    · exact hname.not_mem (by decide) hc
    · exact absurd hc (by decide)
  have hparts : Text.splitAt '.' (quotedPath target)
      = [inQuotes target.table, inQuotes target.column] := by
    rw [Text.splitAt, quotedPath, Text.splitWhere_append rfl, Text.splitWhere_of_all (hdot htable),
      Text.splitWhere_of_all (hdot hcolumn)]
    rfl
  have hempty : [target.table, target.column].contains "" = false := by
    simp [htable.ne_empty.symm, hcolumn.ne_empty.symm]
  rw [target?, trim_of_quotes rfl (getLast?_quotedPath target), hcomma, hparts]
  rw [List.map_cons, List.map_singleton, htable.unquoteIdentifier, hcolumn.unquoteIdentifier]
  change (if [target.table, target.column].contains "" then none else _) = _
  rw [hempty]
  rfl

theorem unquoteIdentifier_subset (s : List Char) :
    (Naming.unquoteIdentifier (.ofList s)).toList ⊆ s := by
  intro c hc
  rw [Naming.unquoteIdentifier, String.toList_ofList, String.toList_ofList, Text.trimSet] at hc
  exact Text.trim_subset s ((List.dropWhile_suffix _).subset (Text.dropEndWhile_subset _ _ hc))

theorem mem_of_target? {path : List Char} {target : Target} (h : target? path = some target) :
    ∀ c ∈ target.table.toList ++ target.column.toList, c ∈ path := by
  have hpart : ∀ name ∈ (Text.splitAt '.' (Text.dropEndWhile (· == ',') (Text.trim path))).map
      (fun part => Naming.unquoteIdentifier (.ofList part)), name.toList ⊆ path := by
    rintro name hname c hc
    obtain ⟨part, hpart, rfl⟩ := List.mem_map.mp hname
    have hmem := (Text.of_mem_splitWhere hpart c (unquoteIdentifier_subset part hc)).1
    exact Text.trim_subset path (Text.dropEndWhile_subset _ _ hmem)
  rw [target?] at h
  split at h
  · next column table others hparts =>
    split_ifs at h
    cases h
    have hmem : ∀ name ∈ column :: table :: others, name.toList ⊆ path := by
      intro name hname
      rw [← hparts, List.mem_reverse] at hname
      exact hpart name hname
    intro c hc
    rcases List.mem_append.mp hc with hc | hc
    · exact hmem table (List.mem_cons_of_mem _ List.mem_cons_self) hc
    · exact hmem column List.mem_cons_self hc
  · cases h

def relationSigns : List Char := ['<', '>', '-']

/-- Whether a character does not end the path in front of a sign. -/
def IsSourceChar (c : Char) : Prop :=
  Text.isBlank c = false ∧ c ∉ relationSigns

instance (c : Char) : Decidable (IsSourceChar c) :=
  inferInstanceAs (Decidable (_ ∧ _))

theorem isSourceChar_iff {c : Char} :
    IsSourceChar c ↔ Text.isBlank c = false ∧ c ≠ '<' ∧ c ≠ '>' ∧ c ≠ '-' := by
  simp [IsSourceChar, relationSigns]

/-- The path behind the sign that a text starts with. -/
def targetPath? (s : List Char) : Option (List Char) :=
  match Text.trimLeft s with
  | '<' :: '>' :: tail => pathAfter? tail <|> pathAfter? ('>' :: tail)
  | sign :: tail => if sign == '<' || sign == '>' || sign == '-' then pathAfter? tail else none
  | [] => none

theorem pathsFrom?_cons (before : List Char) (c : Char) (rest : List Char) :
    pathsFrom? before (c :: rest)
      = match if before.isEmpty then none else targetPath? (c :: rest) with
        | some target => some (before.reverse, target)
        | none =>
          if Text.isBlank c || c == '<' || c == '>' then none
          else pathsFrom? (c :: before) rest := by
  rw [pathsFrom?]
  rfl

theorem isBlank_of_pathAfter? {s path : List Char} (h : pathAfter? s = some path) :
    ∀ c ∈ path, Text.isBlank c = false := by
  rw [pathAfter?] at h
  split_ifs at h
  cases h
  intro c hc
  have hend : (!isPathEnd c) = true := List.mem_takeWhile_imp (p := (!isPathEnd ·)) hc
  rw [Bool.not_eq_true', isPathEnd, Bool.or_eq_false_iff] at hend
  exact hend.1

theorem pathAfter?_ne_none {s : List Char} (hbracket : '[' ∉ s)
    (hs : ∃ c ∈ s, Text.isBlank c = false) : pathAfter? s ≠ none := by
  have hne : Text.trimLeft s ≠ [] := by
    obtain ⟨c, hc, hblank⟩ := hs
    intro hnil
    rw [List.dropWhile_eq_nil_iff.mp hnil c hc] at hblank
    cases hblank
  obtain ⟨c, rest, hrest⟩ := List.exists_cons_of_ne_nil hne
  have hblank : Text.isBlank c = false := by
    have hhead := List.head?_dropWhile_not Text.isBlank s
    rw [show List.dropWhile Text.isBlank s = c :: rest from hrest] at hhead
    simpa using hhead
  have hc : c ≠ '[' := by
    rintro rfl
    exact hbracket (Text.trimLeft_subset s (hrest ▸ List.mem_cons_self))
  have hend : (!isPathEnd c) = true := by simp [isPathEnd, hblank, hc]
  rw [pathAfter?, hrest, List.takeWhile_cons_of_pos (p := (!isPathEnd ·)) hend]
  exact Option.some_ne_none _

theorem isBlank_of_targetPath? {s path : List Char} (h : targetPath? s = some path) :
    ∀ c ∈ path, Text.isBlank c = false := by
  rw [targetPath?] at h
  split at h
  · rw [Option.orElse_eq_orElse, Option.orElse_eq_or, Option.or_eq_some_iff] at h
    rcases h with h | ⟨-, h⟩ <;> exact isBlank_of_pathAfter? h
  · split_ifs at h
    exact isBlank_of_pathAfter? h
  · cases h

theorem IsSourceChar.targetPath? {c : Char} (hc : IsSourceChar c) (rest : List Char) :
    targetPath? (c :: rest) = none := by
  obtain ⟨hblank, hless, hgreater, hminus⟩ := isSourceChar_iff.mp hc
  have htrim : Text.trimLeft (c :: rest) = c :: rest :=
    List.dropWhile_cons_of_neg (by simp [hblank])
  rw [Dbml.targetPath?, htrim]
  split
  · next heq => exact absurd (List.cons.inj heq).1 hless
  · next heq =>
    obtain ⟨rfl, rfl⟩ := List.cons.inj heq
    simp [hless, hgreater, hminus]
  · rfl

theorem pathsFrom?_append {path : List Char} (hpath : ∀ c ∈ path, IsSourceChar c)
    (before rest : List Char) :
    pathsFrom? before (path ++ rest) = pathsFrom? (path.reverse ++ before) rest := by
  induction path generalizing before with
  | nil => rfl
  | cons c path ih =>
      obtain ⟨hc, hrest⟩ := List.forall_mem_cons.mp hpath
      have hgo : (Text.isBlank c || c == '<' || c == '>') = false := by
        obtain ⟨hblank, hless, hgreater, -⟩ := isSourceChar_iff.mp hc
        simp [hblank, hless, hgreater]
      rw [List.cons_append, pathsFrom?_cons, hc.targetPath?, ite_self]
      dsimp only
      rw [hgo, if_neg Bool.false_ne_true, ih hrest, List.reverse_cons, List.append_assoc]
      rfl

/-- A path in front of a sign holds no sign and no blank, and the one behind it holds no blank. -/
theorem forall_of_pathsFrom? {before s left right : List Char} (hne : before ≠ [])
    (hbefore : ∀ c ∈ before, IsSourceChar c) (hbracket : '[' ∉ s) (hlast : s.getLast? = some '"')
    (h : pathsFrom? before s = some (left, right)) :
    (∀ c ∈ left, IsSourceChar c) ∧ ∀ c ∈ right, Text.isBlank c = false := by
  induction s generalizing before with
  | nil => cases hlast
  | cons c rest ih =>
      rw [pathsFrom?_cons, if_neg (by simpa using hne)] at h
      cases htarget : targetPath? (c :: rest) with
      | some target =>
          rw [htarget] at h
          cases h
          exact ⟨fun d hd => hbefore d (List.mem_reverse.mp hd), isBlank_of_targetPath? htarget⟩
      | none =>
          rw [htarget] at h
          dsimp only at h
          split_ifs at h with hc
          cases rest with
          | nil => cases h
          | cons d rest =>
              rw [List.getLast?_cons_cons] at hlast
              rw [List.mem_cons, not_or] at hbracket
              -- a dash would have been a sign, as there is a path behind it
              have hdash : c ≠ '-' := by
                rintro rfl
                refine pathAfter?_ne_none hbracket.2 ⟨'"', List.mem_of_getLast? hlast, rfl⟩ ?_
                exact htarget
              have hsource : IsSourceChar c := by
                simp only [Bool.or_eq_true, beq_iff_eq, not_or, Bool.not_eq_true] at hc
                exact isSourceChar_iff.mpr ⟨hc.1.1, hc.1.2, hc.2, hdash⟩
              exact ih (List.cons_ne_nil c before) (List.forall_mem_cons.mpr ⟨hsource, hbefore⟩)
                hbracket.2 hlast h

theorem link?_eq_some_iff {body : List Char} {link : Link} :
    link? body = some link ↔ ∃ left right,
      pathsFrom? [] (withoutSettings (Text.trim body)) = some (left, right) ∧
        target? left = some link.source ∧ target? right = some link.target := by
  constructor
  · intro h
    obtain ⟨⟨left, right⟩, hpaths, h⟩ := Option.bind_eq_some_iff.mp h
    obtain ⟨source, hsource, h⟩ := Option.bind_eq_some_iff.mp h
    obtain ⟨target, htarget, h⟩ := Option.bind_eq_some_iff.mp h
    cases h
    exact ⟨left, right, hpaths, hsource, htarget⟩
  · rintro ⟨left, right, hpaths, hsource, htarget⟩
    refine Option.bind_eq_some_iff.mpr ⟨(left, right), hpaths, ?_⟩
    refine Option.bind_eq_some_iff.mpr ⟨link.source, hsource, ?_⟩
    exact Option.bind_eq_some_iff.mpr ⟨link.target, htarget, rfl⟩

/-- The body of a reference between paths in quotes. -/
def quotedReference (link : Link) : List Char :=
  quotedPath link.source ++ " > ".toList ++ quotedPath link.target

/-- Whether the four names of a link can stand in quotes. -/
structure Link.IsNamed (link : Link) : Prop where
  sourceTable : IsName link.source.table
  sourceColumn : IsName link.source.column
  targetTable : IsName link.target.table
  targetColumn : IsName link.target.column

instance (link : Link) : Decidable link.IsNamed :=
  decidable_of_iff
    (IsName link.source.table ∧ IsName link.source.column ∧ IsName link.target.table ∧
      IsName link.target.column)
    ⟨fun ⟨hsourceTable, hsourceColumn, htargetTable, htargetColumn⟩ =>
      ⟨hsourceTable, hsourceColumn, htargetTable, htargetColumn⟩,
      fun h => ⟨h.sourceTable, h.sourceColumn, h.targetTable, h.targetColumn⟩⟩

/-- Whether a reference between paths in quotes is read as what it says: no blank stands in a name,
and no sign in a name of the source. -/
def Link.IsPlain (link : Link) : Prop :=
  (∀ c ∈ link.source.table.toList ++ link.source.column.toList, IsSourceChar c) ∧
    ∀ c ∈ link.target.table.toList ++ link.target.column.toList, Text.isBlank c = false

instance (link : Link) : Decidable link.IsPlain :=
  inferInstanceAs (Decidable (_ ∧ _))

variable {link : Link}

theorem mem_quotedPath {target : Target} {c : Char} :
    c ∈ quotedPath target
      ↔ c = '"' ∨ c = '.' ∨ c ∈ target.table.toList ++ target.column.toList := by
  simp only [quotedPath, inQuotes, List.mem_append, List.mem_cons, List.not_mem_nil, or_false]
  tauto

theorem getLast?_quotedReference (link : Link) : (quotedReference link).getLast? = some '"' := by
  rw [quotedReference, List.getLast?_append, getLast?_quotedPath]
  rfl

theorem Link.IsNamed.not_mem_quotedReference (h : link.IsNamed) {c : Char} (hc : c ∈ ['[', '/']) :
    c ∉ quotedReference link := by
  have hreserved : ∀ c ∈ ['[', '/'],
      c ∈ reservedChars ∧ c ≠ '"' ∧ c ≠ '.' ∧ c ∉ " > ".toList := by decide
  obtain ⟨hname, hquote, hdot, hsign⟩ := hreserved c hc
  simp only [quotedReference, List.mem_append, mem_quotedPath, hquote, hdot, hsign, false_or,
    or_false]
  rintro ((hmem | hmem) | (hmem | hmem))
  · exact h.sourceTable.not_mem hname hmem
  · exact h.sourceColumn.not_mem hname hmem
  · exact h.targetTable.not_mem hname hmem
  · exact h.targetColumn.not_mem hname hmem

theorem pathAfter?_quotedPath {target : Target}
    (h : ∀ c ∈ target.table.toList ++ target.column.toList, Text.isBlank c = false)
    (hbracket : '[' ∉ quotedPath target) :
    pathAfter? (' ' :: quotedPath target) = some (quotedPath target) := by
  have htrim : Text.trimLeft (' ' :: quotedPath target) = quotedPath target := by
    rw [Text.trimLeft, List.dropWhile_cons_of_pos (by decide)]
    exact List.dropWhile_cons_of_neg (by decide)
  have hpath : (quotedPath target).takeWhile (!isPathEnd ·) = quotedPath target := by
    refine List.takeWhile_eq_self_iff.mpr fun c hc => ?_
    have hblank : Text.isBlank c = false := by
      rcases mem_quotedPath.mp hc with rfl | rfl | hname
      · rfl
      · rfl
      · exact h c hname
    have hend : c ≠ '[' := fun heq => hbracket (heq ▸ hc)
    simp [isPathEnd, hblank, hend]
  rw [pathAfter?, htrim, hpath]
  rfl

theorem withoutSettings_quotedReference (link : Link) :
    withoutSettings (Text.trim (quotedReference link)) = quotedReference link := by
  have hlast := getLast?_quotedReference link
  rw [trim_of_quotes rfl hlast, withoutSettings]
  split
  · next before hreverse =>
    rw [← List.head?_reverse, hreverse] at hlast
    cases hlast
  · rfl

theorem Link.IsPlain.pathsFrom?_quotedReference (h : link.IsPlain) (hnamed : link.IsNamed) :
    pathsFrom? [] (quotedReference link)
      = some (quotedPath link.source, quotedPath link.target) := by
  have hpath : ∀ c ∈ quotedPath link.source, IsSourceChar c := by
    intro c hc
    rcases mem_quotedPath.mp hc with rfl | rfl | hname
    · decide
    · decide
    · exact h.1 c hname
  have hbracket : '[' ∉ quotedPath link.target := fun hmem =>
    hnamed.not_mem_quotedReference (show '[' ∈ ['[', '/'] by decide)
      (List.mem_append_right _ hmem)
  have hsign : targetPath? (' ' :: '>' :: ' ' :: quotedPath link.target)
      = some (quotedPath link.target) :=
    pathAfter?_quotedPath h.2 hbracket
  have hbefore : ¬ (quotedPath link.source).reverse.isEmpty = true := by
    simp [quotedPath, inQuotes]
  rw [quotedReference, List.append_assoc, pathsFrom?_append hpath, List.append_nil]
  change pathsFrom? _ (' ' :: '>' :: ' ' :: quotedPath link.target) = _
  rw [pathsFrom?_cons, if_neg hbefore, hsign]
  dsimp only
  rw [List.reverse_reverse]

/-- Names that are read from the paths of a reference have nothing in the way. -/
theorem Link.IsNamed.isPlain_of_pathsFrom? (h : link.IsNamed) {left right : List Char}
    (hpaths : pathsFrom? [] (quotedReference link) = some (left, right))
    (hleft : target? left = some link.source) (hright : target? right = some link.target) :
    link.IsPlain := by
  have hquote : pathsFrom? [] (quotedReference link)
      = pathsFrom? ['"'] (quotedReference link).tail :=
    pathsFrom?_append (show ∀ c ∈ ['"'], IsSourceChar c by decide) [] _
  have hbracket := h.not_mem_quotedReference (show '[' ∈ ['[', '/'] by decide)
  have hlast : (quotedReference link).tail.getLast? = some '"' := by
    rw [List.getLast?_tail, getLast?_quotedReference]
    exact if_neg (by simp [quotedReference, quotedPath, inQuotes])
  rw [hquote] at hpaths
  obtain ⟨hleftChars, hrightChars⟩ := forall_of_pathsFrom? (List.cons_ne_nil _ _) (by decide)
    (fun hmem => hbracket (List.mem_of_mem_tail hmem)) hlast hpaths
  exact ⟨fun c hc => hleftChars c (mem_of_target? hleft c hc),
    fun c hc => hrightChars c (mem_of_target? hright c hc)⟩

/-- A reference between paths in quotes makes the link that it says exactly if no name stops it. -/
theorem link?_quotedReference_iff (h : link.IsNamed) :
    link? (quotedReference link) = some link ↔ link.IsPlain := by
  rw [link?_eq_some_iff, withoutSettings_quotedReference]
  constructor
  · rintro ⟨left, right, hpaths, hleft, hright⟩
    exact h.isPlain_of_pathsFrom? hpaths hleft hright
  · intro hplain
    exact ⟨_, _, hplain.pathsFrom?_quotedReference h,
      target?_quotedPath h.sourceTable h.sourceColumn,
      target?_quotedPath h.targetTable h.targetColumn⟩

end RelSchema.Dbml
