import RelSchema.Proofs.Ddl.Body
import RelSchema.Proofs.Ddl.Reference
import RelSchema.Proofs.Ddl.TableScript
import RelSchema.Proofs.Schema.Marked

/-!
# Key constraints

The entries of a key constraint name columns. A length behind a name stands in parentheses and is
passed over, but a sort word is a bare word like a name, and is read as one. The key then lists the
named columns only if each sort word is, up to case, a name that is listed no later than directly
behind it, where it adds nothing and moves nothing.
-/

namespace RelSchema.Ddl

open Sql (Token Balanced SelfContained isWordPart isQuote isBreak_gap isBreak_opening)
open Sql.Pending (wordToken)

/-! ### Repetitions

A key is a list of names without repetitions, each in its first place. Words that stand behind the
names change nothing exactly if each of them is a name no later than directly behind it.
-/

/-- The elements of a list that are not among those seen before, without repetitions. -/
def unseen (seen names : List String) : List String :=
  (distinct names).filter (· ∉ seen)

theorem unseen_nil_left (names : List String) : unseen [] names = distinct names := by
  simp [unseen]

theorem filter_distinct_eq_unseen (seen : List String) (name : String) (names : List String) :
    ((distinct names).filter (· != name)).filter (· ∉ seen) = unseen (name :: seen) names := by
  rw [List.filter_filter]
  refine List.filter_congr fun other _ => ?_
  by_cases hsame : other = name <;> simp [hsame]

theorem unseen_cons_self {seen : List String} {name : String} (h : name ∈ seen)
    (names : List String) : unseen (name :: seen) names = unseen seen names := by
  refine List.filter_congr fun other _ => ?_
  by_cases hsame : other = name
  · subst hsame
    simp [h]
  · simp [hsame]

theorem unseen_cons_of_mem {seen : List String} {name : String} (h : name ∈ seen)
    (names : List String) : unseen seen (name :: names) = unseen seen names := by
  rw [unseen, RelSchema.distinct, List.filter_cons_of_neg (by simpa using h),
    filter_distinct_eq_unseen, unseen_cons_self h]

theorem unseen_cons_of_not_mem {seen : List String} {name : String} (h : name ∉ seen)
    (names : List String) : unseen seen (name :: names) = name :: unseen (name :: seen) names := by
  rw [unseen, RelSchema.distinct, List.filter_cons_of_pos (by simpa using h),
    filter_distinct_eq_unseen]

theorem filter_not_mem_eq_self {names seen : List String} (h : ∀ name ∈ names, name ∉ seen) :
    names.filter (· ∉ seen) = names :=
  List.filter_eq_self.mpr fun name hname => by simpa using h name hname

theorem not_mem_cons_of_nodup {name : String} {names seen : List String}
    (hnodup : (name :: names).Nodup) (hseen : ∀ other ∈ names, other ∉ seen) :
    ∀ other ∈ names, other ∉ name :: seen := by
  intro other hother hmem
  rcases List.mem_cons.mp hmem with rfl | hmem
  · exact (List.nodup_cons.mp hnodup).1 hother
  · exact hseen other hother hmem

/-- Names with possibly a word behind each of them, in a row. -/
def withWords (entries : List (String × Option String)) : List String :=
  entries.flatMap fun entry => entry.1 :: entry.2.toList

theorem map_withWords {f : String → String} {entries : List (String × Option String)}
    (hf : ∀ entry ∈ entries, f entry.1 = entry.1) :
    (withWords entries).map f = withWords (entries.map fun entry => (entry.1, entry.2.map f)) := by
  rw [withWords, withWords, List.map_flatMap, List.flatMap_map]
  refine List.flatMap_congr fun entry hentry => ?_
  rw [List.map_cons, hf entry hentry]
  cases entry.2 <;> rfl

/-- Whether each word is among those seen before or is a name that comes no later than directly behind
it. -/
def AddsNothing (seen : List String) (entries : List (String × Option String)) : Prop :=
  ∀ i entry, entries[i]? = some entry → ∀ word ∈ entry.2,
    word ∈ seen ∨ word ∈ (entries.take (i + 2)).map (·.1)

theorem addsNothing_cons_iff {seen : List String} {entry : String × Option String}
    {rest : List (String × Option String)} :
    AddsNothing seen (entry :: rest) ↔
      (∀ word ∈ entry.2, word ∈ entry.1 :: seen ∨ word ∈ (rest.take 1).map (·.1)) ∧
        AddsNothing (entry.1 :: seen) rest := by
  have hhead : ∀ n word, (word ∈ seen ∨ word ∈ ((entry :: rest).take (n + 1)).map (·.1)) ↔
      (word ∈ entry.1 :: seen ∨ word ∈ (rest.take n).map (·.1)) := by
    intro n word
    rw [List.take_succ_cons, List.map_cons, List.mem_cons, List.mem_cons]
    exact or_left_comm.trans or_assoc.symm
  constructor
  · intro h
    refine ⟨fun word hword => (hhead 1 word).mp (h 0 entry rfl word hword), ?_⟩
    intro i other hother word hword
    exact (hhead (i + 2) word).mp (h (i + 1) other hother word hword)
  · rintro ⟨hfirst, hrest⟩ i other hother word hword
    cases i with
    | zero =>
        cases hother
        exact (hhead 1 word).mpr (hfirst word hword)
    | succ i => exact (hhead (i + 2) word).mpr (hrest i other hother word hword)

/-- A name that comes first counts as seen wherever a word stands behind it. -/
theorem addsNothing_of_head {seen : List String} {name : String}
    {entries : List (String × Option String)} (hname : (entries.map (·.1)).head? = some name) :
    AddsNothing (name :: seen) entries ↔ AddsNothing seen entries := by
  refine forall₄_congr fun i entry _ word => ?_
  have hmem : name ∈ (entries.take (i + 2)).map (·.1) := by
    cases entries with
    | nil => cases hname
    | cons first rest =>
        cases hname
        exact List.mem_cons_self
  rw [List.mem_cons]
  constructor
  · intro h hword
    rcases h hword with (rfl | hseen) | hlisted
    · exact Or.inr hmem
    · exact Or.inl hseen
    · exact Or.inr hlisted
  · intro h hword
    exact (h hword).imp Or.inr id

/-- A word that is new is kept, so it leaves the names as they are exactly if it is the next one. -/
theorem unseen_cons_withWords_iff {entries : List (String × Option String)} {seen : List String}
    {word : String} (hnodup : (entries.map (·.1)).Nodup)
    (hseen : ∀ name ∈ entries.map (·.1), name ∉ seen) (hword : word ∉ seen)
    (hentries : ∀ {seen : List String}, (∀ name ∈ (entries.map (·.1)).tail, name ∉ seen) →
      (unseen seen (withWords entries) = (entries.map (·.1)).filter (· ∉ seen) ↔
        AddsNothing seen entries)) :
    unseen seen (word :: withWords entries) = entries.map (·.1) ↔
      word ∈ (entries.take 1).map (·.1) ∧ AddsNothing seen entries := by
  rw [unseen_cons_of_not_mem hword]
  cases entries with
  | nil => exact iff_of_false (List.cons_ne_nil _ _) fun h => List.not_mem_nil h.1
  | cons next rest =>
      by_cases hnext : next.1 = word
      · subst hnext
        have hlater : ∀ name ∈ rest.map (·.1), name ∉ next.1 :: seen :=
          not_mem_cons_of_nodup hnodup fun name hname => hseen name (List.mem_cons_of_mem _ hname)
        have hbehind := hentries hlater
        rw [List.map_cons, List.filter_cons_of_neg (by simp), filter_not_mem_eq_self hlater,
          addsNothing_of_head rfl] at hbehind
        rw [List.map_cons, List.cons.injEq, and_iff_right rfl, hbehind, and_iff_right]
        exact List.mem_cons_self
      · refine iff_of_false (fun h => hnext (List.cons.inj h).1.symm) fun h => ?_
        exact hnext (List.mem_singleton.mp h.1).symm

/-- Words between distinct names leave them as they are exactly if they add nothing. -/
theorem unseen_withWords_iff {entries : List (String × Option String)} {seen : List String}
    (hnodup : (entries.map (·.1)).Nodup) (hseen : ∀ name ∈ (entries.map (·.1)).tail, name ∉ seen) :
    unseen seen (withWords entries) = (entries.map (·.1)).filter (· ∉ seen) ↔
      AddsNothing seen entries := by
  induction entries generalizing seen with
  | nil => simp [withWords, unseen, RelSchema.distinct, AddsNothing]
  | cons entry rest ih =>
      obtain ⟨name, word?⟩ := entry
      have hrest : (rest.map (·.1)).Nodup := (List.nodup_cons.mp hnodup).2
      have hseen : ∀ other ∈ rest.map (·.1), other ∉ seen := hseen
      have hunseen := not_mem_cons_of_nodup hnodup hseen
      -- the name itself is kept or dropped on both sides
      have hstep : unseen seen (withWords ((name, word?) :: rest))
            = (((name, word?) :: rest).map (·.1)).filter (· ∉ seen) ↔
          unseen (name :: seen) (word?.toList ++ withWords rest) = rest.map (·.1) := by
        have hsplit : withWords ((name, word?) :: rest)
            = name :: (word?.toList ++ withWords rest) := rfl
        rw [hsplit, List.map_cons]
        by_cases hmem : name ∈ seen
        · rw [unseen_cons_of_mem hmem, ← unseen_cons_self hmem,
            List.filter_cons_of_neg (by simpa using hmem), filter_not_mem_eq_self hseen]
        · rw [unseen_cons_of_not_mem hmem, List.filter_cons_of_pos (by simpa using hmem),
            filter_not_mem_eq_self hseen, List.cons.injEq, and_iff_right rfl]
      have hbehind := @ih (name :: seen) hrest fun other hother =>
        hunseen other (List.mem_of_mem_tail hother)
      rw [filter_not_mem_eq_self hunseen] at hbehind
      rw [hstep, addsNothing_cons_iff]
      cases word? with
      | none => simpa using hbehind
      | some word =>
          rw [Option.toList_some, List.singleton_append]
          by_cases hword : word ∈ name :: seen
          · rw [unseen_cons_of_mem hword, hbehind, and_iff_right]
            rintro other ⟨rfl⟩
            exact Or.inl hword
          · rw [unseen_cons_withWords_iff hrest hunseen hword (ih hrest)]
            refine and_congr_left fun _ => ?_
            simp only [Option.mem_some_iff, forall_eq', or_iff_right hword]

theorem distinct_withWords_iff {entries : List (String × Option String)}
    (hnodup : (entries.map (·.1)).Nodup) :
    distinct (withWords entries) = entries.map (·.1) ↔ AddsNothing [] entries := by
  have hiff := unseen_withWords_iff hnodup fun name _ => (List.not_mem_nil : name ∉ [])
  rw [unseen_nil_left] at hiff
  simpa using hiff

/-- An entry of a key constraint: the name of a column, possibly a length and a sort word, each with a
gap in front of it, and what stands around all of these. -/
structure KeyEntry where
  name : SpelledName
  length? : Option (List Char × List Char) := none
  sort? : Option (List Char × List Char) := none
  before : List Char := []
  after : List Char := []

namespace KeyEntry

def column (entry : KeyEntry) : String :=
  .ofList entry.name.letters

def sortWord? (entry : KeyEntry) : Option String :=
  entry.sort?.map fun sort => .ofList sort.2

def lengthText (entry : KeyEntry) : List Char :=
  match entry.length? with
  | none => []
  | some (gap, length) => gap ++ '(' :: (length ++ [')'])

def sortText (entry : KeyEntry) : List Char :=
  match entry.sort? with
  | none => []
  | some (gap, word) => gap ++ word

def text (dialect : Dialect) (entry : KeyEntry) : List Char :=
  entry.before ++ ((entry.name.text dialect ++ (entry.lengthText ++ entry.sortText)) ++ entry.after)

/-- Whether an entry is well formed: its sort word is one of the two, apart from a bare name in front
of it, and there are only blanks around it. -/
structure Regular (entry : KeyEntry) : Prop where
  name : entry.name.Regular
  length : ∀ length ∈ entry.length?,
    (∀ c ∈ length.1, Text.isSeparator c = true) ∧ Balanced length.2
  sort : ∀ sort ∈ entry.sort?, (∀ c ∈ sort.1, Text.isSeparator c = true) ∧
    Text.upper (.ofList sort.2) ∈ ["ASC", "DESC"]
  parted : ∀ sort ∈ entry.sort?, entry.name.isQuoted = false → entry.length? = none → sort.1 ≠ []
  before : ∀ c ∈ entry.before, Text.isBlank c = true
  after : ∀ c ∈ entry.after, Text.isBlank c = true

instance (entry : KeyEntry) : Decidable entry.Regular :=
  decidable_of_iff (entry.name.Regular ∧ (∀ length ∈ entry.length?,
      (∀ c ∈ length.1, Text.isSeparator c = true) ∧ Balanced length.2) ∧
    (∀ sort ∈ entry.sort?, (∀ c ∈ sort.1, Text.isSeparator c = true) ∧
      Text.upper (.ofList sort.2) ∈ ["ASC", "DESC"]) ∧
    (∀ sort ∈ entry.sort?, entry.name.isQuoted = false → entry.length? = none → sort.1 ≠ []) ∧
    (∀ c ∈ entry.before, Text.isBlank c = true) ∧ ∀ c ∈ entry.after, Text.isBlank c = true)
    ⟨fun h => ⟨h.1, h.2.1, h.2.2.1, h.2.2.2.1, h.2.2.2.2.1, h.2.2.2.2.2⟩,
      fun h => ⟨h.name, h.length, h.sort, h.parted, h.before, h.after⟩⟩

variable {entry : KeyEntry} (dialect : Dialect)

/-- The letters of a sort word are neither blanks nor marks. -/
theorem plain_of_sort {w : List Char} (hw : Text.upper (.ofList w) ∈ ["ASC", "DESC"]) :
    w ≠ [] ∧ (∀ c ∈ w, isWordPart c = true) ∧
      ∀ c ∈ w, Text.isBlank c = false ∧ c ≠ ',' ∧ c ∉ nameMarks := by
  have hletters : ∀ word ∈ ["ASC", "DESC"], ∀ c ∈ word.toList, ¬ Text.IsReserved c ∧
      c ≠ '[' ∧ c ≠ ']' := by decide
  have hne : w ≠ [] := by
    rintro rfl
    revert hw
    decide
  have hreserved := Text.not_isReserved_of_upper rfl fun c hc => (hletters _ hw c hc).1
  have hsingle := isSingleWord_of_all hne hreserved
  refine ⟨hne, hsingle.isWordPart, fun c hc => ⟨hsingle.not_isBlank c hc, ?_, fun hmark => ?_⟩⟩
  · rintro rfl
    exact hreserved ',' hc (by decide)
  · simp only [nameMarks, List.mem_cons, List.not_mem_nil, or_false] at hmark
    rcases hmark with rfl | rfl | rfl | rfl | rfl
    · exact hreserved _ hc (by decide)
    · exact hreserved _ hc (by decide)
    · exact hreserved _ hc (by decide)
    · exact (hletters _ hw '[' (Text.mem_upper (by decide) hc)).2.1 rfl
    · exact (hletters _ hw ']' (Text.mem_upper (by decide) hc)).2.2 rfl

section Listed

variable (h : entry.Regular)

include h

theorem listed_sortText : listed dialect entry.sortText = entry.sortWord?.toList := by
  unfold sortText sortWord?
  cases hsort : entry.sort? with
  | none => rfl
  | some sort =>
      obtain ⟨gap, word⟩ := sort
      obtain ⟨hgap, hword⟩ := h.sort _ hsort
      obtain ⟨hne, hcode, hplain⟩ := plain_of_sort hword
      have hnames := listed_word dialect hcode []
      rw [List.append_nil] at hnames
      simp only [Option.map_some, Option.toList_some]
      rw [listed_gap dialect hgap, hnames]
      simp [partNames_eq_self hne hplain]

theorem balanced_sortText : Balanced entry.sortText := by
  unfold sortText
  cases hsort : entry.sort? with
  | none => exact .nil
  | some sort =>
      obtain ⟨hgap, hword⟩ := h.sort _ hsort
      obtain ⟨-, hcode, -⟩ := plain_of_sort hword
      exact (Balanced.of_isSeparator hgap).append (.of_isWordPart hcode)

theorem listed_lengthText :
    listed dialect (entry.lengthText ++ entry.sortText) = listed dialect entry.sortText := by
  unfold lengthText
  cases hlength : entry.length? with
  | none => rfl
  | some length =>
      obtain ⟨gap, inner⟩ := length
      obtain ⟨hgap, hinner⟩ := h.length _ hlength
      have hsplit : gap ++ '(' :: (inner ++ [')']) ++ entry.sortText
          = gap ++ ('(' :: (inner ++ ')' :: entry.sortText)) := by simp
      rw [hsplit, listed_gap dialect hgap, listed_parenthesized dialect hinner]

theorem balanced_lengthText : Balanced entry.lengthText := by
  unfold lengthText
  cases hlength : entry.length? with
  | none => exact .nil
  | some length =>
      obtain ⟨hgap, hinner⟩ := h.length _ hlength
      exact (Balanced.of_isSeparator hgap).append hinner.parenthesized

theorem head?_behind_name : ∀ c ∈ (entry.lengthText ++ entry.sortText).head?,
    isQuote c = false ∧ (entry.name.isQuoted = false → isWordPart c = false) := by
  unfold lengthText sortText
  cases hlength : entry.length? with
  | some length =>
      obtain ⟨gap, inner⟩ := length
      obtain ⟨hgap, -⟩ := h.length _ hlength
      intro c hc
      have hbreak := isBreak_gap hgap fun _ => isBreak_opening (inner ++ [')'] ++ entry.sortText)
      rw [sortText] at hbreak
      obtain ⟨hquote, hpart⟩ := hbreak c (by simpa using hc)
      exact ⟨hquote, fun _ => hpart⟩
  | none =>
      cases hsort : entry.sort? with
      | none =>
          intro c hc
          cases hc
      | some sort =>
          obtain ⟨gap, word⟩ := sort
          obtain ⟨hgap, hword⟩ := h.sort _ hsort
          obtain ⟨-, hcode, -⟩ := plain_of_sort hword
          by_cases hgapNe : gap = []
          · subst hgapNe
            intro c hc
            refine ⟨(Sql.isWordPart_iff.mp (hcode c (List.mem_of_mem_head? hc))).1, fun hbare => ?_⟩
            exact absurd rfl (h.parted _ hsort hbare hlength)
          · intro c hc
            obtain ⟨hquote, hpart⟩ := isBreak_gap hgap (absurd · hgapNe) c hc
            exact ⟨hquote, fun _ => hpart⟩

theorem listed_core :
    listed dialect (entry.name.text dialect ++ (entry.lengthText ++ entry.sortText))
      = entry.column :: entry.sortWord?.toList := by
  rw [h.name.listed_append dialect (head?_behind_name h), listed_lengthText dialect h,
    listed_sortText dialect h, column]

theorem balanced_core :
    Balanced (entry.name.text dialect ++ (entry.lengthText ++ entry.sortText)) :=
  (h.name.seamless_text dialect ',' (by decide)).contained.balanced.append
    ((balanced_lengthText h).append (balanced_sortText h))

theorem listed_text : listed dialect (entry.text dialect) = entry.column :: entry.sortWord?.toList := by
  rw [text, listed_of_blank dialect h.before (balanced_core dialect h) h.after, listed_core dialect h]

theorem balanced_text : Balanced (entry.text dialect) :=
  (balanced_of_blank h.before).append
    ((balanced_core dialect h).append (balanced_of_blank h.after))

end Listed

end KeyEntry

/-- The names between the parentheses of a key constraint. -/
def entriesText (dialect : Dialect) (entries : List KeyEntry) : List Char :=
  [','].intercalate (entries.map (KeyEntry.text dialect))

def wordsOf (entries : List KeyEntry) : List (String × Option String) :=
  entries.map fun entry => (entry.column, entry.sortWord?)

theorem listed_entriesText (dialect : Dialect) {entries : List KeyEntry}
    (hentries : ∀ entry ∈ entries, entry.Regular) :
    listed dialect (entriesText dialect entries) = withWords (wordsOf entries) := by
  have hbalanced : ∀ text ∈ entries.map (KeyEntry.text dialect), Balanced text := by
    intro text htext
    obtain ⟨entry, hentry, rfl⟩ := List.mem_map.mp htext
    exact KeyEntry.balanced_text dialect (hentries entry hentry)
  rw [entriesText, listed_intercalate dialect hbalanced, withWords, wordsOf, List.flatMap_map,
    List.flatMap_map]
  exact List.flatMap_congr fun entry hentry => KeyEntry.listed_text dialect (hentries entry hentry)

theorem balanced_entriesText (dialect : Dialect) {entries : List KeyEntry}
    (hentries : ∀ entry ∈ entries, entry.Regular) : Balanced (entriesText dialect entries) := by
  refine TableScript.balanced_intercalate fun text htext => ?_
  obtain ⟨entry, hentry, rfl⟩ := List.mem_map.mp htext
  exact KeyEntry.balanced_text dialect (hentries entry hentry)

/-- A key constraint adds the names of its entries, and their sort words, to the key. -/
theorem readDefinition_keyConstraint (dialect : Dialect) {words gap : List Char}
    {entries : List KeyEntry} (hwords : Spells ["PRIMARY", "KEY"] words)
    (hgap : ∀ c ∈ gap, Text.isSeparator c = true) (hentries : ∀ entry ∈ entries, entry.Regular) :
    readDefinition dialect (words ++ (gap ++ '(' :: (entriesText dialect entries ++ [')'])))
      = .primaryKey (withWords (wordsOf entries)) := by
  have hbehind : ∀ c ∈ (gap ++ '(' :: (entriesText dialect entries ++ [')'])).head?,
      isWordPart c = false :=
    fun c hc => (isBreak_gap hgap (fun _ => isBreak_opening _) c hc).2
  obtain ⟨keywords, htokens, hlength, hstarts, -⟩ := hwords.exists_tokens dialect 0 hbehind
  have htwo : keywords.length = 2 := hlength
  rw [readDefinition, tokens_eq_tokensAt, htokens, hstarts, if_pos rfl, List.drop_left' htwo,
    listedNames_parenthesized dialect _ hgap (balanced_entriesText dialect hentries) [],
    listed_entriesText dialect hentries]

/-- Whether a table has the names as its key, in this order, and marks just their columns, which may
not be null. -/
structure HasKey (table : Table) (names : List String) : Prop where
  key : table.primaryKeys = names
  marks : ∀ column ∈ table.columns, column.isPrimaryKey = decide (column.name ∈ names)
  not_nullable : ∀ column ∈ table.columns, column.name ∈ names → column.isNullable = false

theorem columnSpelling_eq_iff {columns : List Column}
    (hdistinct : DistinctFolds (columns.map (·.name))) {name : String}
    (hname : name ∈ columns.map (·.name)) {word : String} :
    columnSpelling columns word = name ↔ Text.sameFold name word = true := by
  obtain ⟨column, hcolumn, rfl⟩ := List.mem_map.mp hname
  refine ⟨fun hspelling => ?_, columnSpelling_of_sameFold hdistinct hcolumn⟩
  rw [← hspelling, Text.sameFold, fold_columnSpelling, beq_self_eq_true]

/-- A declared key is spelled as the columns are, without repetitions, exactly if the sort words add
nothing. -/
theorem primaryKeyOrder_withWords_iff {columns : List Column} {entries : List KeyEntry}
    (hdistinct : DistinctFolds (columns.map (·.name)))
    (hnodup : (entries.map KeyEntry.column).Nodup)
    (hcolumns : entries.map KeyEntry.column ⊆ columns.map (·.name)) (hne : entries ≠ []) :
    primaryKeyOrder columns (withWords (wordsOf entries)) = entries.map KeyEntry.column ↔
      ∀ i entry, entries[i]? = some entry → ∀ word ∈ entry.sortWord?,
        ∃ other ∈ entries.take (i + 2), Text.sameFold other.column word = true := by
  let spelled (entry : KeyEntry) := (entry.column, entry.sortWord?.map (columnSpelling columns))
  have hfirst : ∀ names : List KeyEntry,
      (names.map spelled).map (·.1) = names.map KeyEntry.column := fun _ => List.map_map
  have hwords : (withWords (wordsOf entries)).map (columnSpelling columns)
      = withWords (entries.map spelled) := by
    rw [map_withWords, wordsOf, List.map_map]
    · rfl
    · intro pair hpair
      obtain ⟨entry, hentry, rfl⟩ := List.mem_map.mp hpair
      exact columnSpelling_eq hdistinct (hcolumns (List.mem_map_of_mem hentry))
  have hdeclared : (withWords (wordsOf entries)).isEmpty = false := by
    obtain ⟨first, rest, rfl⟩ := List.exists_cons_of_ne_nil hne
    rfl
  rw [primaryKeyOrder, hdeclared, if_neg Bool.false_ne_true, hwords, ← hfirst,
    distinct_withWords_iff (by rw [hfirst]; exact hnodup), AddsNothing]
  -- a spelled sort word is a name exactly if the sort word is one up to case
  refine forall_congr' fun i => ?_
  constructor
  · intro h entry hentry word hword
    have hget : (entries.map spelled)[i]? = some (spelled entry) := by
      rw [List.getElem?_map, hentry, Option.map_some]
    rcases h _ hget (columnSpelling columns word) (Option.mem_map_of_mem _ hword) with hmem | hmem
    · cases hmem
    · rw [← List.map_take, hfirst] at hmem
      obtain ⟨other, hother, heq⟩ := List.mem_map.mp hmem
      have hname := hcolumns (List.mem_map_of_mem (List.mem_of_mem_take hother))
      exact ⟨other, hother, (columnSpelling_eq_iff hdistinct hname).mp heq.symm⟩
  · intro h pair hpair word hword
    rw [List.getElem?_map] at hpair
    obtain ⟨entry, hentry, rfl⟩ := Option.map_eq_some_iff.mp hpair
    obtain ⟨sort, hsort, rfl⟩ := Option.map_eq_some_iff.mp hword
    obtain ⟨other, hother, hsame⟩ := h entry hentry sort hsort
    have hname := hcolumns (List.mem_map_of_mem (List.mem_of_mem_take hother))
    rw [← List.map_take, hfirst, (columnSpelling_eq_iff hdistinct hname).mpr hsame]
    exact Or.inr (List.mem_map_of_mem hother)

/-- A column has a name of the constraint up to case exactly if it is one of its columns, where the
sort words add nothing. -/
theorem any_sameFold_withWords_iff {names : List String} {entries : List KeyEntry}
    (hdistinct : DistinctFolds names) (hcolumns : entries.map KeyEntry.column ⊆ names)
    (hsort : ∀ i entry, entries[i]? = some entry → ∀ word ∈ entry.sortWord?,
      ∃ other ∈ entries.take (i + 2), Text.sameFold other.column word = true)
    {name : String} (hname : name ∈ names) :
    (withWords (wordsOf entries)).any (Text.sameFold name) = true ↔
      name ∈ entries.map KeyEntry.column := by
  constructor
  · intro h
    obtain ⟨key, hkey, hsame⟩ := List.any_eq_true.mp h
    obtain ⟨pair, hpair, hkey⟩ := List.mem_flatMap.mp hkey
    obtain ⟨entry, hentry, rfl⟩ := List.mem_map.mp hpair
    -- either way the word is the name of an entry up to case
    have hother : ∃ other ∈ entries, Text.sameFold other.column key = true := by
      rcases List.mem_cons.mp hkey with rfl | hword
      · exact ⟨entry, hentry, sameFold_self _⟩
      · obtain ⟨i, hget⟩ := List.getElem?_of_mem hentry
        obtain ⟨other, hother, hword⟩ := hsort i entry hget key (Option.mem_toList.mp hword)
        exact ⟨other, List.mem_of_mem_take hother, hword⟩
    obtain ⟨other, hother, hotherSame⟩ := hother
    have hmem := List.mem_map_of_mem (f := KeyEntry.column) hother
    rwa [hdistinct.eq_of_sameFold hname (hcolumns hmem)]
    simp only [Text.sameFold, beq_iff_eq] at hsame hotherSame ⊢
    exact hsame.trans hotherSame.symm
  · intro hmem
    obtain ⟨entry, hentry, rfl⟩ := List.mem_map.mp hmem
    refine List.any_eq_true.mpr ⟨entry.column, ?_, sameFold_self _⟩
    exact List.mem_flatMap.mpr ⟨_, List.mem_map_of_mem hentry, List.mem_cons_self⟩

section KeyConstraint

variable {dialect : Dialect} {name text : String} {script : TableScript}
  {front back : List (List Char)} {part words gap : List Char} {entries : List KeyEntry}

/-- A constraint gives its table the key of its columns exactly if each sort word is, up to case, a
column that it lists no later than directly behind it. -/
theorem key_constraint_iff (hscript : script.Creates dialect name) (htext : script.Spells text)
    (hname : name ≠ "") (hnamed : (script.creation dialect name).Named)
    (hdistinct : DistinctFolds ((script.creation dialect name).columns.map (·.name)))
    (hparts : script.parts = front ++ part :: back)
    (hothers : ∀ other ∈ front ++ back,
      (readDefinition dialect (Text.trim other)).keyNames = [])
    (hpart : Text.trim part = words ++ (gap ++ '(' :: (entriesText dialect entries ++ [')'])))
    (hwords : Spells ["PRIMARY", "KEY"] words) (hgap : ∀ c ∈ gap, Text.isSeparator c = true)
    (hentries : ∀ entry ∈ entries, entry.Regular) (hne : entries ≠ [])
    (hnodup : (entries.map KeyEntry.column).Nodup)
    (hcolumns : entries.map KeyEntry.column ⊆ (script.creation dialect name).columns.map (·.name)) :
    ∃ table, script.Gives dialect text [table] ∧
      table.columnNames = (script.creation dialect name).columns.map (·.name) ∧
      (HasKey table (entries.map KeyEntry.column) ↔
        ∀ i entry, entries[i]? = some entry → ∀ word ∈ entry.sortWord?,
          ∃ other ∈ entries.take (i + 2), Text.sameFold other.column word = true) := by
  set creation := script.creation dialect name with hcreation
  have hpartNe : Text.trim part ≠ [] := by
    rw [hpart]
    simp
  have hdefinitions := TableScript.definitionTexts_ne_nil_of_parts hparts hpartNe
  have hkeyNames : creation.keyNames = withWords (wordsOf entries) := by
    rw [Creation.keyNames, hcreation,
      TableScript.flatMap_definitions_of_parts _ hparts hpartNe hothers, hpart,
      readDefinition_keyConstraint dialect hwords hgap hentries]
    rfl
  have hdeclared : creation.keyNames ≠ [] := by
    obtain ⟨first, rest, rfl⟩ := List.exists_cons_of_ne_nil hne
    rw [hkeyNames]
    exact List.cons_ne_nil _ _
  have hcolumnNames : creation.table.columnNames = creation.columns.map (·.name) := by
    rw [Table.columnNames, Creation.table, List.map_map]
    exact List.map_congr_left fun column _ => creation.name_settled column
  have hdeclaredNames : (creation.columns.map (underDeclared creation.keyNames)).map (·.name)
      = creation.columns.map (·.name) := by
    rw [List.map_map]
    exact List.map_congr_left fun column _ => name_underDeclared _ column
  have hkey := primaryKeyOrder_withWords_iff
    (by rw [hdeclaredNames]; exact hdistinct) hnodup (by rw [hdeclaredNames]; exact hcolumns) hne
  rw [← hkeyNames] at hkey
  refine ⟨creation.table, hscript.gives_table htext hname hdefinitions hnamed, hcolumnNames,
    fun h => hkey.mp h.key, fun hsort => ⟨hkey.mpr hsort, ?_, ?_⟩⟩
  all_goals
    intro column hcolumn
    obtain ⟨read, hread, rfl⟩ := List.mem_map.mp hcolumn
    obtain ⟨hmark, hnotNullable⟩ := Creation.marks_settled hdeclared read
    have hlisted := any_sameFold_withWords_iff hdistinct hcolumns hsort (List.mem_map_of_mem hread)
    rw [← hkeyNames] at hlisted
    rw [creation.name_settled]
  · rw [hmark, Bool.eq_iff_iff, hlisted, decide_eq_true_iff]
  · exact fun hmem => hnotNullable (hlisted.mpr hmem)

end KeyConstraint

/-- A table with a column of the name of a sort word. -/
def rankedScript : TableScript where
  head := "CREATE TABLE t ".toList
  parts := ["a TEXT".toList, " \x60desc\x60 INT".toList,
    " PRIMARY KEY(\x60desc\x60 DESC , a (3))".toList]

def rankedText : String :=
  "CREATE TABLE t (a TEXT, \x60desc\x60 INT, PRIMARY KEY(\x60desc\x60 DESC , a (3)))"

/-- The entries of its key: the sort word names the column in front of it. -/
def rankedEntries : List KeyEntry := [
  { name := ⟨"desc".toList, true⟩, sort? := some ([' '], "DESC".toList), after := [' '] },
  { name := ⟨"a".toList, false⟩, length? := some ([' '], ['3']), before := [' '] }]

theorem key_constraint_ranked :
    rankedScript.Creates .mysql "t" ∧ rankedScript.Spells rankedText ∧
      (∀ entry ∈ rankedEntries, entry.Regular) ∧
      ∃ table, rankedScript.Gives .mysql rankedText [table] ∧ table.columnNames = ["a", "desc"] ∧
        HasKey table ["desc", "a"] := by
  have hscript : rankedScript.Creates .mysql "t" :=
    ⟨by decide +kernel, by decide +kernel, by decide, .blank (by decide), by decide⟩
  have htext : rankedScript.Spells rankedText := by decide +kernel
  have hentries : ∀ entry ∈ rankedEntries, entry.Regular := by decide +kernel
  have hwords : Spells ["PRIMARY", "KEY"] "PRIMARY KEY".toList :=
    @Spells.cons "PRIMARY" ["KEY"] [] "PRIMARY".toList " KEY".toList (by decide) (by decide)
      (by decide) (by decide) (by decide) spells_key
  have hcolumns : (rankedScript.creation .mysql "t").columns.map (·.name) = ["a", "desc"] := by
    decide +kernel
  obtain ⟨table, hgives, hnames, hkey⟩ := @key_constraint_iff .mysql "t" rankedText rankedScript
    ["a TEXT".toList, " \x60desc\x60 INT".toList] [] " PRIMARY KEY(\x60desc\x60 DESC , a (3))".toList
    "PRIMARY KEY".toList [] rankedEntries hscript htext (by decide) (by decide +kernel)
    (by rw [hcolumns, DistinctFolds]; decide +kernel) rfl (by decide +kernel) (by decide +kernel) hwords
    (by decide) hentries (by decide) (by decide) (by rw [hcolumns]; decide)
  refine ⟨hscript, htext, hentries, table, hgives, hnames.trans hcolumns, hkey.mpr ?_⟩
  intro i entry hentry word hword
  match i, hentry with
  | 0, rfl => exact ⟨_, List.mem_cons_self, by cases hword; decide +kernel⟩
  | 1, rfl => cases hword

/-- A key of two columns with sort words, neither of which is the name of a column. -/
def sortedEntries : List KeyEntry := [
  { name := ⟨"a".toList, false⟩, sort? := some ([' '], "ASC".toList) },
  { name := ⟨"b".toList, false⟩, sort? := some ([' '], "DESC".toList), before := [' '] }]

def sortedText : String := "CREATE TABLE t (a INT, b INT, PRIMARY KEY (a ASC, b DESC))"

/-- Sort words become names of the key. -/
theorem key_constraint_sorted :
    (∀ entry ∈ sortedEntries, entry.Regular) ∧
      "(a ASC, b DESC)".toList = '(' :: (entriesText .sqlite sortedEntries ++ [')']) ∧
      parse sortedText (some "sqlite") = .ok [{
        name := "t"
        columns := [
          { name := "a", type := "INT", isPrimaryKey := true, isNullable := false },
          { name := "b", type := "INT", isPrimaryKey := true, isNullable := false }]
        primaryKeys := ["a", "ASC", "b", "DESC"] }] := by
  refine ⟨?_, ?_, ?_⟩ <;> decide +kernel

end RelSchema.Ddl
