import Mathlib.Data.List.Infix
import RelSchema.Proofs.Dbml.Line
import RelSchema.Proofs.Text.Case

/-!
# Blocks that are skipped

A block that is neither a table nor a list of references is skipped: the line that opens it ends in
a brace, and what follows is counted in braces, whatever stands around them, until none is open. If
the count ends with the last line of the block, then the reader is where it was in front of it. If
not, as with a brace in quotes, then the block ends early or goes on behind its last line.
-/

namespace RelSchema.Dbml

theorem braceBalance_append (s t : List Char) :
    braceBalance (s ++ t) = braceBalance s + braceBalance t := by
  unfold braceBalance
  rw [List.count_append, List.count_append]
  omega

/-- Whether no brace is closed before it is opened, and each is closed in the end. -/
def Nests (s : List Char) : Prop :=
  braceBalance s = 0 ∧ ∀ front ∈ s.inits, 0 ≤ braceBalance front

instance (s : List Char) : Decidable (Nests s) :=
  inferInstanceAs (Decidable (_ ∧ _))

/-- The text without its quotes and what stands in them, where `quote?` is the open quote in front
of it. -/
def withoutQuoted (quote? : Option Char) : List Char → List Char
  | [] => []
  | c :: rest =>
    match quote? with
    | some quote => withoutQuoted (if c == quote then none else quote?) rest
    | none =>
      if quotes.contains c then withoutQuoted (some c) rest else c :: withoutQuoted none rest

def contents (lines : List (List Char)) : List Char :=
  lines.flatMap content

theorem contents_append (lines others : List (List Char)) :
    contents (lines ++ others) = contents lines ++ contents others :=
  List.flatMap_append

theorem braceBalance_contents_nil : braceBalance (contents []) = 0 := rfl

theorem braceBalance_contents_cons (line : List Char) (lines : List (List Char)) :
    braceBalance (contents (line :: lines))
      = braceBalance (content line) + braceBalance (contents lines) :=
  braceBalance_append (content line) (contents lines)

/-- Whether a line starts with a word other than the two keywords of tables and references. -/
def HasHead (line : List Char) : Prop :=
  line.takeWhile Text.isWordChar ≠ [] ∧
    Text.lower (.ofList (line.takeWhile Text.isWordChar)) ∉ ["table", "ref"]

instance (line : List Char) : Decidable (HasHead line) :=
  inferInstanceAs (Decidable (_ ∧ _))

theorem of_isLetter {letter c : Char} (hletter : letter ∈ "tableref".toList)
    (hc : Text.isLetter letter c = true) :
    c.toLower = letter ∧ c.toNat < 128 ∧ Text.isWordChar c = true := by
  have hothers : ∀ letter ∈ "tableref".toList, (letter == 'i') = false ∧ (letter == 's') = false ∧
      (letter == 'k') = false ∧ letter.toNat < 128 := by decide
  obtain ⟨hi, hs, hk, hsmall⟩ := hothers letter hletter
  have hlower : c.toLower = letter := by
    simpa only [Text.isLetter, hi, hs, hk, Bool.false_and, Bool.or_false, beq_iff_eq] using hc
  have hascii : c.toNat < 128 := by
    rcases Text.toLower_cases c with hupper | hsame
    · have hhigh : c.toNat ≤ 90 := UInt32.le_iff_toNat_le.mp (of_decide_eq_true hupper).2
      omega
    · rwa [← hsame, hlower]
  have htest := Text.of_forall_ascii
    (fun c => !"tableref".toList.contains c.toLower || Text.isWordChar c) (by decide +kernel) hascii
  rw [hlower, List.contains_iff_mem.mpr hletter] at htest
  exact ⟨hlower, hascii, htest⟩

theorem exists_of_dropKeyword? {keyword line rest : List Char}
    (hkeyword : keyword ⊆ "tableref".toList) (h : Text.dropKeyword? keyword line = some rest) :
    ∃ front, line = front ++ rest ∧ (∀ c ∈ front, Text.isWordChar c = true) ∧
      Text.lower (.ofList front) = .ofList keyword := by
  suffices hfront : ∃ front, line = front ++ rest ∧ front.map Char.toLower = keyword ∧
      ∀ c ∈ front, c.toNat < 128 ∧ Text.isWordChar c = true by
    obtain ⟨front, hline, rfl, hall⟩ := hfront
    exact ⟨front, hline, fun c hc => (hall c hc).2, Text.lower_of_ascii fun c hc => (hall c hc).1⟩
  induction keyword generalizing line with
  | nil => exact ⟨[], Option.some.inj h, rfl, List.forall_mem_nil _⟩
  | cons letter keyword ih =>
      cases line with
      | nil => cases h
      | cons c line =>
          rw [Text.dropKeyword?] at h
          split_ifs at h with hc
          obtain ⟨hletter, hletters⟩ := List.cons_subset.mp hkeyword
          obtain ⟨hlower, hchar⟩ := of_isLetter hletter hc
          obtain ⟨front, rfl, hmap, hall⟩ := ih hletters h
          exact ⟨c :: front, rfl, by rw [List.map_cons, hlower, hmap],
            List.forall_mem_cons.mpr ⟨hchar, hall⟩⟩

/-- Behind a keyword in front of the line its first word goes on. -/
theorem HasHead.isWordChar_head {keyword : String} (hkeyword : keyword ∈ ["table", "ref"])
    {line rest : List Char} (hhead : HasHead line)
    (h : Text.dropKeyword? keyword.toList line = some rest) :
    ∃ c tail, rest = c :: tail ∧ Text.isWordChar c = true := by
  have hletters : ∀ keyword ∈ ["table", "ref"], keyword.toList ⊆ "tableref".toList := by decide
  obtain ⟨front, rfl, hfront, hlower⟩ := exists_of_dropKeyword? (hletters keyword hkeyword) h
  by_contra hnone
  refine hhead.2 ?_
  rw [Text.takeWhile_append_eq hfront, hlower, String.ofList_toList]
  · exact hkeyword
  · intro c hc
    cases rest with
    | nil => cases hc
    | cons d tail =>
        cases hc
        exact Bool.eq_false_iff.mpr fun hchar => hnone ⟨c, tail, rfl, hchar⟩

theorem HasHead.ne_nil {line : List Char} (h : HasHead line) : line ≠ [] := by
  rintro rfl
  exact h.1 rfl

theorem HasHead.beq_close {line : List Char} (h : HasHead line) : (line == ['}']) = false := by
  refine beq_eq_false_iff_ne.mpr ?_
  rintro rfl
  exact h.1 rfl

theorem opensBlock_of_getLast? {line : List Char} (h : line.getLast? = some '}') :
    opensBlock line = false := by
  rw [opensBlock, h]
  rfl

theorem isReferenceName_cons {c : Char} (hc : Text.isWordChar c = true) (rest : List Char) :
    isReferenceName (c :: rest) = false := by
  simp [isReferenceName, Text.isBlank_of_isWordChar hc]

theorem HasHead.header?_eq_none {line : List Char} (h : HasHead line) : header? line = none := by
  have hbehind : (Text.dropKeyword? "table".toList line >>= dropBlanks?) = none := by
    cases hdrop : Text.dropKeyword? "table".toList line with
    | none => rfl
    | some rest =>
        obtain ⟨c, tail, rfl, hc⟩ := h.isWordChar_head (by decide) hdrop
        exact if_neg (by simp [Text.isBlank_of_isWordChar hc])
  rw [header?, hbehind]

theorem HasHead.opensReferences_eq_false {line : List Char} (h : HasHead line) :
    opensReferences line = false := by
  unfold opensReferences
  cases hdrop : Text.dropKeyword? "ref".toList line with
  | none => rfl
  | some rest =>
      obtain ⟨c, tail, rfl, hc⟩ := h.isWordChar_head (by decide) hdrop
      cases tail with
      | nil =>
          have hbrace : c ≠ '{' := by
            rintro rfl
            exact absurd hc (by decide)
          simp [hbrace]
      | cons d tail => simp [isReferenceName_cons hc]

theorem HasHead.reference?_eq_none {line : List Char} (h : HasHead line) :
    reference? line = none := by
  unfold reference?
  cases hdrop : Text.dropKeyword? "ref".toList line with
  | none => rfl
  | some rest =>
      obtain ⟨c, tail, rfl, hc⟩ := h.isWordChar_head (by decide) hdrop
      cases hcut : Text.cutAt? ':' (c :: tail) with
      | none =>
          rw [show (some (c :: tail) >>= Text.cutAt? ':') = none from hcut]
      | some cut =>
          obtain ⟨name, body⟩ := cut
          rw [show (some (c :: tail) >>= Text.cutAt? ':') = some (name, body) from hcut]
          obtain ⟨hsplit, -⟩ := Text.eq_append_of_cutAt? hcut
          cases name with
          | nil =>
              cases hsplit
              exact absurd hc (by decide)
          | cons d name =>
              cases hsplit
              simp [isReferenceName_cons hc]

namespace Reader

variable {reader : Reader}

/-- Whether a reader stands outside all blocks or directly in the block of a table. -/
def IsDirect (reader : Reader) : Prop :=
  reader.skipped = 0 ∧ reader.block ≠ .references

instance (reader : Reader) : Decidable reader.IsDirect :=
  inferInstanceAs (Decidable (_ ∧ _))

def IsInTable (reader : Reader) : Prop :=
  reader.skipped = 0 ∧ ∃ name columns, reader.block = .table name columns

theorem IsDirect.isInTable (h : reader.IsDirect) (htop : ¬ reader.IsTop) : reader.IsInTable := by
  refine ⟨h.1, ?_⟩
  cases hblock : reader.block with
  | top => exact absurd ⟨hblock, h.1⟩ htop
  | table name columns => exact ⟨name, columns, rfl⟩
  | references => exact absurd hblock h.2

theorem IsInTable.isDirect (h : reader.IsInTable) : reader.IsDirect := by
  obtain ⟨hskipped, name, columns, hblock⟩ := h
  exact ⟨hskipped, by rw [hblock]; exact fun heq => by cases heq⟩

theorem IsInTable.exists_readLine_eq (h : reader.IsInTable) :
    ∃ name columns, reader.block = .table name columns ∧ ∀ line, content line ≠ [] →
      reader.readLine line = reader.readInTable name columns (content line) := by
  obtain ⟨hskipped, name, columns, hblock⟩ := h
  refine ⟨name, columns, hblock, fun line hne => ?_⟩
  rw [readLine, if_neg (by simpa using hne), readContent, if_neg (by simp [hskipped]), hblock]

/-- The reader with a number of open braces in a block that is skipped. -/
def skipping (reader : Reader) (count : Int) : Reader :=
  { reader with skipped := count }

theorem IsDirect.skipping_zero (h : reader.IsDirect) : reader.skipping 0 = reader := by
  rw [skipping, ← h.1]

theorem readAtTop_of_hasHead {line : List Char} (h : HasHead line) :
    reader.readAtTop line = if opensBlock line then reader.skipping 1 else reader := by
  rw [readAtTop, h.header?_eq_none, h.opensReferences_eq_false, h.reference?_eq_none]
  rfl

/-- The line that opens a block makes one open brace, however many there are in it. -/
theorem IsDirect.readLine_opening (h : reader.IsDirect) {line : List Char}
    (hhead : HasHead (content line)) (hopens : opensBlock (content line) = true) :
    reader.readLine line = reader.skipping 1 := by
  by_cases htop : reader.IsTop
  · rw [htop.readLine_eq hhead.ne_nil, readAtTop_of_hasHead hhead, if_pos hopens]
  · obtain ⟨name, columns, -, hread⟩ := (h.isInTable htop).exists_readLine_eq
    rw [hread line hhead.ne_nil, readInTable, hhead.beq_close, if_neg Bool.false_ne_true,
      if_pos hopens]
    rfl

/-- A line with a word in front is passed over in a table if it opens no block and declares no
column. -/
theorem IsInTable.readLine_eq_self (h : reader.IsInTable) {line : List Char}
    (hhead : HasHead (content line)) (hopens : opensBlock (content line) = false)
    (hcolumn : isTableSetting (content line) = false → column? (content line) = none) :
    reader.readLine line = reader := by
  obtain ⟨name, columns, -, hread⟩ := h.exists_readLine_eq
  rw [hread line hhead.ne_nil, readInTable, hhead.beq_close, hopens]
  cases hsetting : isTableSetting (content line) with
  | true => rfl
  | false =>
      rw [hcolumn hsetting]
      rfl

theorem readLine_skipping (reader : Reader) {count : Int} (hcount : count ≠ 0) (line : List Char) :
    (reader.skipping count).readLine line
      = reader.skipping (count + braceBalance (content line)) := by
  rw [readLine]
  cases hcontent : content line with
  | nil => exact congrArg reader.skipping (Int.add_zero count).symm
  | cons c rest =>
      have hskipped : ((reader.skipping count).skipped != 0) = true := bne_iff_ne.mpr hcount
      rw [List.isEmpty_cons, if_neg Bool.false_ne_true, readContent, if_pos hskipped]
      rfl

/-- As long as a brace is open, lines are skipped. -/
theorem foldl_readLine_skipping (reader : Reader) {count : Int} {lines : List (List Char)}
    (hopen : ∀ front, front <+: lines → count + braceBalance (contents front) ≠ 0) :
    lines.foldl readLine (reader.skipping count)
      = reader.skipping (count + braceBalance (contents lines)) := by
  induction lines generalizing count with
  | nil => exact congrArg reader.skipping (Int.add_zero count).symm
  | cons line rest ih =>
      have hcount : count ≠ 0 := by
        simpa [braceBalance_contents_nil] using hopen [] List.nil_prefix
      rw [List.foldl_cons, reader.readLine_skipping hcount, ih, braceBalance_contents_cons,
        Int.add_assoc]
      intro front hfront
      rw [Int.add_assoc, ← braceBalance_contents_cons]
      exact hopen (line :: front) (List.cons_prefix_cons.mpr ⟨rfl, hfront⟩)

theorem skipped_readInTable (name : String) (columns : List Column) (line : List Char) :
    (reader.readInTable name columns line).skipped = reader.skipped ∨
      (reader.readInTable name columns line).skipped = 1 := by
  unfold readInTable
  split_ifs
  · exact Or.inl rfl
  · exact Or.inr rfl
  · exact Or.inl rfl
  · cases column? line <;> exact Or.inl rfl

theorem skipped_readAtTop (line : List Char) :
    (reader.readAtTop line).skipped = reader.skipped ∨ (reader.readAtTop line).skipped = 1 := by
  unfold readAtTop
  cases header? line with
  | some name => exact Or.inl rfl
  | none =>
      by_cases hreferences : opensReferences line = true
      · exact Or.inl (by rw [if_pos hreferences])
      · rw [if_neg hreferences]
        cases reference? line with
        | some body => exact Or.inl rfl
        | none =>
            dsimp only
            split_ifs
            · exact Or.inr rfl
            · exact Or.inl rfl

/-- A line that closes at most one brace more than it opens leaves the number of open ones at zero
or above. -/
theorem skipped_readLine_nonneg (h : 0 ≤ reader.skipped) {line : List Char}
    (hline : -1 ≤ braceBalance (content line)) : 0 ≤ (reader.readLine line).skipped := by
  by_cases hskipped : reader.skipped = 0
  · have hcases : (reader.readLine line).skipped = reader.skipped ∨
        (reader.readLine line).skipped = 1 := by
      unfold readLine
      split_ifs
      · exact Or.inl rfl
      · rw [readContent, if_neg (by simp [hskipped])]
        cases reader.block with
        | top => exact skipped_readAtTop _
        | table name columns => exact skipped_readInTable name columns _
        | references =>
            dsimp only
            split_ifs <;> exact Or.inl rfl
    omega
  · have hcount : (reader.readLine line).skipped = reader.skipped + braceBalance (content line) :=
      congrArg Reader.skipped (reader.readLine_skipping hskipped line)
    omega

theorem skipped_foldl_readLine_nonneg (h : 0 ≤ reader.skipped) {lines : List (List Char)}
    (hlines : ∀ line ∈ lines, -1 ≤ braceBalance (content line)) :
    0 ≤ (lines.foldl readLine reader).skipped := by
  induction lines generalizing reader with
  | nil => exact h
  | cons line rest ih =>
      obtain ⟨hline, hrest⟩ := List.forall_mem_cons.mp hlines
      exact ih (skipped_readLine_nonneg h hline) hrest

end Reader

/-- Whether a text is a block on several lines that is counted to its end: its first line starts
with a word other than the keywords and ends in a brace, its last line ends in a brace, and the
braces between these two are as many closing as opening ones, those in quotes included. The count
does not end early: behind no line between the two is one brace more closed than opened. -/
def IsSpreadBlock (block : String) : Prop :=
  ∃ opening middle closing inner, Text.lines block.toList = opening :: (middle ++ [closing]) ∧
    HasHead (content opening) ∧ opensBlock (content opening) = true ∧
    content closing = inner ++ ['}'] ∧ braceBalance (contents middle ++ inner) = 0 ∧
    ∀ front, front <+: middle → braceBalance (contents front) ≠ -1

theorem isSpreadBlock_of_nests {block : String} {opening closing inner : List Char}
    {middle : List (List Char)}
    (hlines : Text.lines block.toList = opening :: (middle ++ [closing]))
    (hhead : HasHead (content opening)) (hopens : opensBlock (content opening) = true)
    (hclosing : content closing = inner ++ ['}']) (hnests : Nests (contents middle ++ inner)) :
    IsSpreadBlock block := by
  refine ⟨opening, middle, closing, inner, hlines, hhead, hopens, hclosing, hnests.1, ?_⟩
  rintro front ⟨rest, rfl⟩
  have hfront : contents front <+: contents (front ++ rest) ++ inner := by
    rw [contents_append, List.append_assoc]
    exact List.prefix_append _ _
  have hopen := hnests.2 _ ((List.mem_inits _ _).mpr hfront)
  omega

def IsLineBlock (block : String) : Prop :=
  ∃ line, Text.lines block.toList = [line] ∧ HasHead (content line) ∧
    (content line).getLast? = some '}'

/-- Whether a line of a text would be a column in the block of a table. -/
def HasColumn (text : String) : Prop :=
  ∃ line ∈ Text.lines text.toList, isTableSetting (content line) = false ∧
    (column? (content line)).isSome

variable {block : String} {reader : Reader}

theorem IsSpreadBlock.readText (h : IsSpreadBlock block) (hreader : reader.IsDirect) :
    reader.readText block = reader := by
  obtain ⟨opening, middle, closing, inner, hlines, hhead, hopens, hclosing, hbalance, hfronts⟩ := h
  have hopen : ∀ front, front <+: middle → 1 + braceBalance (contents front) ≠ 0 := by
    intro front hfront
    have hne := hfronts front hfront
    omega
  have hend : 1 + braceBalance (contents middle) + braceBalance (inner ++ ['}']) = 0 := by
    rw [braceBalance_append] at hbalance ⊢
    have hbrace : braceBalance ['}'] = -1 := rfl
    omega
  rw [Reader.readText, hlines, List.foldl_cons, hreader.readLine_opening hhead hopens,
    List.foldl_concat, reader.foldl_readLine_skipping hopen,
    reader.readLine_skipping (hopen middle List.prefix_rfl), hclosing, hend]
  exact hreader.skipping_zero

/-- A block on a single line is passed over outside all blocks. In a table it is, too, unless it is
read as a column. -/
theorem IsLineBlock.readText (h : IsLineBlock block) (hreader : reader.IsDirect)
    (hcolumn : reader.IsTop ∨ ¬ HasColumn block) : reader.readText block = reader := by
  obtain ⟨line, hlines, hhead, hlast⟩ := h
  have hopens := opensBlock_of_getLast? hlast
  rw [Reader.readText, hlines, List.foldl_cons, List.foldl_nil]
  by_cases htop : reader.IsTop
  · rw [htop.readLine_eq hhead.ne_nil, Reader.readAtTop_of_hasHead hhead, hopens]
    rfl
  · have hnone : isTableSetting (content line) = false → column? (content line) = none := by
      have hmem : line ∈ Text.lines block.toList := hlines ▸ List.mem_singleton_self line
      refine fun hsetting => Option.not_isSome_iff_eq_none.mp fun hsome => ?_
      exact (hcolumn.resolve_left htop) ⟨line, hmem, hsetting, hsome⟩
    exact (hreader.isInTable htop).readLine_eq_self hhead hopens hnone

theorem parse_insert_of_readText {s : String} (h : (read s).readText block = read s) (t : String) :
    parse (s ++ "\n" ++ block ++ "\n" ++ t) = parse (s ++ "\n" ++ t) := by
  have hread : read (s ++ "\n" ++ block ++ "\n" ++ t) = read (s ++ "\n" ++ t) := by
    rw [← readText_read, ← readText_read, h, readText_read]
  rw [parse, hread]
  rfl

/-! ### Blocks that are not passed over in a table

Readers in different states may still have the same tables. That a block is not passed over is told
from the tables with one more brace behind it: no line takes a table away, so their number shows
whether the table around the block has been closed.
-/

theorem parse_eq_parse_iff {text other : String} :
    parse text = parse other ↔ (read text).tables = (read other).tables := by
  refine ⟨fun h => ?_, fun h => by rw [parse, parse, h]⟩
  cases htables : (read text).tables with
  | nil =>
      by_contra hne
      have hother := parse_eq_ok_iff.mpr ⟨rfl, fun hnil => hne hnil.symm⟩
      rw [← h, parse, htables] at hother
      cases hother
  | cons table rest =>
      have htext := parse_eq_ok_iff.mpr ⟨htables, List.cons_ne_nil table rest⟩
      rw [h] at htext
      exact (parse_eq_ok_iff.mp htext).1.symm

theorem Effect.length_le_length_apply (effect : Effect) (tables : List Table) :
    tables.length ≤ (effect.apply tables).length := by
  cases effect with
  | nothing => exact Nat.le_refl _
  | close table => simp [Effect.apply]
  | refer body => exact (length_applyReference tables body).ge

namespace Reader

theorem tables_readLine (reader : Reader) (line : List Char) :
    (reader.readLine line).tables = (reader.effect line).apply reader.tables := by
  have h := readLine_withTables reader reader.tables line
  rw [withTables_self] at h
  rw [h]
  rfl

theorem length_tables_foldl_readLine (reader : Reader) (lines : List (List Char)) :
    reader.tables.length ≤ (lines.foldl readLine reader).tables.length := by
  induction lines generalizing reader with
  | nil => exact Nat.le_refl _
  | cons line rest ih =>
      refine Nat.le_trans ?_ (ih (reader.readLine line))
      rw [tables_readLine]
      exact Effect.length_le_length_apply _ _

variable {reader : Reader}

/-- A line in a table that opens no block leaves the reader there or closes the table. -/
theorem IsInTable.readLine (h : reader.IsInTable) {line : List Char}
    (hopens : opensBlock (content line) = false) :
    (reader.readLine line).IsInTable ∧ (reader.readLine line).tables = reader.tables ∨
      reader.tables.length < (reader.readLine line).tables.length := by
  by_cases hne : content line = []
  · rw [Reader.readLine, hne]
    exact Or.inl ⟨h, rfl⟩
  · obtain ⟨name, columns, hblock, hread⟩ := h.exists_readLine_eq
    rw [hread line hne, readInTable, hopens]
    by_cases hclose : (content line == ['}']) = true
    · rw [if_pos hclose]
      exact Or.inr (by simp)
    · rw [if_neg hclose, if_neg Bool.false_ne_true]
      refine Or.inl ?_
      split_ifs
      · exact ⟨h, rfl⟩
      · cases column? (content line) with
        | none => exact ⟨h, rfl⟩
        | some column => exact ⟨⟨h.1, _, _, rfl⟩, rfl⟩

theorem IsInTable.foldl_readLine (h : reader.IsInTable) {lines : List (List Char)}
    (hopens : ∀ line ∈ lines, opensBlock (content line) = false) :
    (lines.foldl Reader.readLine reader).IsInTable ∧
        (lines.foldl Reader.readLine reader).tables = reader.tables ∨
      reader.tables.length < (lines.foldl Reader.readLine reader).tables.length := by
  induction lines generalizing reader with
  | nil => exact Or.inl ⟨h, rfl⟩
  | cons line rest ih =>
      obtain ⟨hline, hrest⟩ := List.forall_mem_cons.mp hopens
      rw [List.foldl_cons]
      rcases h.readLine hline with ⟨hinside, htables⟩ | hlonger
      · rw [← htables]
        exact ih hinside hrest
      · exact Or.inr (hlonger.trans_le (length_tables_foldl_readLine _ rest))

theorem readText_brace (reader : Reader) : reader.readText "\x7d" = reader.readLine ['}'] :=
  readText_line reader (by decide)

/-- If the count of open braces gets to zero behind some of the lines, then it does so for a first
time, and there the block ends. -/
theorem exists_foldl_readLine_skipping (reader : Reader) {count : Int} {lines : List (List Char)}
    (h : ∃ front, front <+: lines ∧ count + braceBalance (contents front) = 0) :
    ∃ front rest, lines = front ++ rest ∧
      front.foldl Reader.readLine (reader.skipping count) = reader.skipping 0 := by
  induction lines generalizing count with
  | nil =>
      obtain ⟨front, hfront, hzero⟩ := h
      rw [List.prefix_nil.mp hfront] at hzero
      refine ⟨[], [], rfl, congrArg reader.skipping ?_⟩
      simpa [braceBalance_contents_nil] using hzero
  | cons line rest ih =>
      by_cases hcount : count = 0
      · exact ⟨[], line :: rest, rfl, congrArg reader.skipping hcount⟩
      · obtain ⟨front, hfront, hzero⟩ := h
        cases front with
        | nil => exact absurd (by simpa [braceBalance_contents_nil] using hzero) hcount
        | cons first front =>
            obtain ⟨rfl, hprefix⟩ := List.cons_prefix_cons.mp hfront
            obtain ⟨front, behind, rfl, hread⟩ :=
              ih ⟨front, hprefix, by rwa [Int.add_assoc, ← braceBalance_contents_cons]⟩
            refine ⟨first :: front, behind, rfl, ?_⟩
            rw [List.foldl_cons, readLine_skipping _ hcount, hread]

end Reader

/-- Whether a text is a block on several lines of which the last is a lone brace and none but the
first ends in an opening one. -/
def IsFlatBlock (block : String) : Prop :=
  ∃ opening middle closing, Text.lines block.toList = opening :: (middle ++ [closing]) ∧
    HasHead (content opening) ∧ opensBlock (content opening) = true ∧ content closing = ['}'] ∧
    ∀ line ∈ middle, opensBlock (content line) = false

/-- Behind a flat block that is not counted to its end the reader is elsewhere than in front of it,
and this can be told from the tables: another brace does not close the table, or it is closed
already. -/
theorem IsFlatBlock.exists_tables_ne (h : IsFlatBlock block) (hspread : ¬ IsSpreadBlock block)
    (hreader : reader.IsInTable) :
    ∃ t : String, ((reader.readText block).readText t).tables ≠ (reader.readText t).tables := by
  obtain ⟨opening, middle, closing, hlines, hhead, hopens, hclosing, hmiddle⟩ := h
  rw [Reader.readText, hlines, List.foldl_cons, hreader.isDirect.readLine_opening hhead hopens]
  by_cases hearly : ∃ front, front <+: middle ∧ 1 + braceBalance (contents front) = 0
  · -- the block ends early, so that its last brace closes the table
    refine ⟨"", fun htables => ?_⟩
    obtain ⟨front, rest, rfl, hfront⟩ :=
      reader.exists_foldl_readLine_skipping hearly
    have hrest : ∀ line ∈ rest, opensBlock (content line) = false := fun line hline =>
      hmiddle line (List.mem_append_right front hline)
    have hlonger : reader.tables.length
        < ((rest.foldl Reader.readLine reader).readLine closing).tables.length := by
      rcases hreader.foldl_readLine hrest with ⟨hinside, hsame⟩ | hlonger
      · obtain ⟨hskipped, name, columns, hblock⟩ := hinside
        rw [Reader.readLine_close hskipped hblock hclosing, hsame]
        simp
      · exact hlonger.trans_le (Reader.length_tables_foldl_readLine _ [closing])
    rw [List.foldl_append, List.foldl_append, hfront, hreader.isDirect.skipping_zero] at htables
    exact hlonger.ne (congrArg List.length htables).symm
  · -- the block goes on behind its last brace
    refine ⟨"\x7d", fun htables => ?_⟩
    have hopen : ∀ front, front <+: middle → 1 + braceBalance (contents front) ≠ 0 :=
      fun front hfront hzero => hearly ⟨front, hfront, hzero⟩
    have hbalance : braceBalance (contents middle) ≠ 0 := by
      refine fun hzero => hspread ⟨opening, middle, closing, [], hlines, hhead, hopens, hclosing,
        by rwa [List.append_nil], fun front hfront hminus => hopen front hfront ?_⟩
      rw [hminus]
      rfl
    have hcount : 1 + braceBalance (contents middle) + braceBalance ['}'] ≠ 0 := by
      have hbrace : braceBalance ['}'] = -1 := rfl
      omega
    obtain ⟨hskipped, name, columns, hblock⟩ := hreader
    rw [List.foldl_concat, reader.foldl_readLine_skipping hopen,
      reader.readLine_skipping (hopen middle List.prefix_rfl), hclosing, Reader.readText_brace,
      Reader.readText_brace, reader.readLine_skipping hcount,
      Reader.readLine_close hskipped hblock content_brace] at htables
    exact (List.cons_ne_nil _ _) (List.self_eq_append_right.mp htables)

/-- In a table a block on a single line that is read as a column becomes one. -/
theorem IsLineBlock.tables_ne (h : IsLineBlock block) (hcolumn : HasColumn block)
    (hreader : reader.IsInTable) :
    ((reader.readText block).readText "\x7d").tables ≠ (reader.readText "\x7d").tables := by
  obtain ⟨line, hlines, hhead, hlast⟩ := h
  obtain ⟨other, hmem, hsetting, hsome⟩ := hcolumn
  rw [hlines] at hmem
  obtain rfl := List.mem_singleton.mp hmem
  obtain ⟨column, hcolumn⟩ := Option.isSome_iff_exists.mp hsome
  obtain ⟨name, columns, hblock, hread⟩ := hreader.exists_readLine_eq
  have hopens := opensBlock_of_getLast? hlast
  have hline : reader.readText block
      = { reader with block := .table name (columns ++ [column]) } := by
    rw [Reader.readText, hlines, List.foldl_cons, List.foldl_nil, hread other hhead.ne_nil,
      Reader.readInTable, hhead.beq_close, hopens, hsetting, hcolumn]
    rfl
  have hclose : ({ reader with block := .table name (columns ++ [column]) } : Reader).readLine ['}']
      = { reader with
          tables := reader.tables ++ [Reader.closeTable name (columns ++ [column])]
          block := .top } := Reader.readLine_close hreader.1 rfl content_brace
  rw [hline, Reader.readText_brace, Reader.readText_brace, hclose,
    Reader.readLine_close hreader.1 hblock content_brace]
  intro htables
  have htable := List.head_eq_of_cons_eq (List.append_cancel_left htables)
  have hcolumns : columns ++ [column] = columns := congrArg Table.columns htable
  exact (List.cons_ne_nil _ _) (List.append_right_eq_self.mp hcolumns)

/-- A block on several lines that is counted to its end can be put at any place outside all blocks
or directly in a table, and so can a block on a single line that is not read as a column there. In a
table no other flat block and no other block on a single line can. The number of open braces is
never negative behind a line of a text whose lines close at most one brace more than they open. -/
theorem parse_insert_block (s block text : String) :
    ((read s).IsDirect →
      (IsSpreadBlock block ∨ IsLineBlock block ∧ ((read s).IsTop ∨ ¬ HasColumn block)) →
      ∀ t : String, parse (s ++ "\n" ++ block ++ "\n" ++ t) = parse (s ++ "\n" ++ t)) ∧
    ((read s).IsInTable →
      (IsFlatBlock block ∧ ¬ IsSpreadBlock block ∨ IsLineBlock block ∧ HasColumn block) →
      ∃ t : String, parse (s ++ "\n" ++ block ++ "\n" ++ t) ≠ parse (s ++ "\n" ++ t)) ∧
    ((∀ line ∈ Text.lines text.toList, -1 ≤ braceBalance (content line)) →
      ∀ front, front <+: Text.lines text.toList →
        0 ≤ (front.foldl Reader.readLine {}).skipped) := by
  refine ⟨?_, ?_, ?_⟩
  · rintro hposition (hblock | ⟨hblock, hcolumn⟩)
    · exact parse_insert_of_readText (hblock.readText hposition)
    · exact parse_insert_of_readText (hblock.readText hposition hcolumn)
  · intro hposition hblock
    have hne : ∃ t : String, (((read s).readText block).readText t).tables
        ≠ ((read s).readText t).tables := by
      rcases hblock with ⟨hblock, hspread⟩ | ⟨hblock, hcolumn⟩
      · exact hblock.exists_tables_ne hspread hposition
      · exact ⟨_, hblock.tables_ne hcolumn hposition⟩
    obtain ⟨t, ht⟩ := hne
    refine ⟨t, fun hparse => ht ?_⟩
    rw [readText_read, readText_read, readText_read]
    exact parse_eq_parse_iff.mp hparse
  · intro hlines front hfront
    exact Reader.skipped_foldl_readLine_nonneg (Int.le_refl 0) fun line hline =>
      hlines line (hfront.subset hline)

def postsStart : String :=
  "Table posts \x7b\nid integer"

def postsEnd : String :=
  "title varchar\n\x7d"

/-- A block with several braces in a line and with braces in quotes. -/
def indexesBlock : String :=
  "indexes \x7b // two\n(id, title) \x7b \x7b unique\nnote: '\x7ba\x7d' \x7d\n\x7d \x7d"

def noteLine : String :=
  "Note \x7b 'a' \x7d"

theorem parse_insert_block_posts :
    (read postsStart).IsInTable ∧ IsSpreadBlock indexesBlock ∧
      parse (postsStart ++ "\n" ++ indexesBlock ++ "\n" ++ postsEnd)
        = parse (postsStart ++ "\n" ++ postsEnd) ∧
      IsLineBlock noteLine ∧ HasColumn noteLine ∧
      (∃ t : String, parse (postsStart ++ "\n" ++ noteLine ++ "\n" ++ t)
        ≠ parse (postsStart ++ "\n" ++ t)) ∧
      ∀ front, front <+: Text.lines postsStart.toList →
        0 ≤ (front.foldl Reader.readLine {}).skipped := by
  have hinside : (read postsStart).IsInTable :=
    ⟨by decide +kernel, "posts", [{ name := "id", type := "integer" }], by decide +kernel⟩
  have hspread : IsSpreadBlock indexesBlock := by
    have hlines : Text.lines indexesBlock.toList = "indexes \x7b // two".toList ::
        (["(id, title) \x7b \x7b unique".toList, "note: '\x7ba\x7d' \x7d".toList] ++
          ["\x7d \x7d".toList]) := by decide +kernel
    exact isSpreadBlock_of_nests hlines (by decide +kernel) (by decide +kernel)
      (show content "\x7d \x7d".toList = "\x7d ".toList ++ ['}'] by decide +kernel)
      (by decide +kernel)
  have hline : IsLineBlock noteLine :=
    ⟨noteLine.toList, by decide +kernel, by decide +kernel, by decide +kernel⟩
  have hcolumn : HasColumn noteLine :=
    ⟨noteLine.toList, by decide +kernel, by decide +kernel, by decide +kernel⟩
  obtain ⟨hinsert, -, hcount⟩ := parse_insert_block postsStart indexesBlock postsStart
  obtain ⟨-, hdiffer, -⟩ := parse_insert_block postsStart noteLine postsStart
  exact ⟨hinside, hspread, hinsert hinside.isDirect (Or.inl hspread) postsEnd, hline, hcolumn,
    hdiffer hinside (Or.inr ⟨hline, hcolumn⟩), hcount (by decide +kernel)⟩

/-- What stands between the braces of a block: a brace in quotes, and none outside. -/
def noteText : String :=
  "\n'a \x7d b'\n"

def noteBlock : String :=
  "Note \x7b" ++ noteText ++ "\x7d"

/-- The brace in quotes ends the block, and the one behind it ends the table. Two closing braces in
a line make the number of open ones negative. -/
theorem parse_insert_block_quoted :
    (read postsStart).IsInTable ∧ HasHead (content "Note \x7b".toList) ∧
      Nests (withoutQuoted none noteText.toList) ∧
      parse (postsStart ++ "\n" ++ postsEnd)
        = .ok [Reader.closeTable "posts" [{ name := "id", type := "integer" },
            { name := "title", type := "varchar" }]] ∧
      parse (postsStart ++ "\n" ++ noteBlock ++ "\n" ++ postsEnd)
        = .ok [Reader.closeTable "posts" [{ name := "id", type := "integer" }]] ∧
      (read "Enum state \x7b\n\x7d\x7d").skipped = -1 := by
  refine ⟨⟨by decide +kernel, "posts", [{ name := "id", type := "integer" }], by decide +kernel⟩,
    ?_, ?_, ?_, ?_, ?_⟩ <;> decide +kernel

end RelSchema.Dbml
