import RelSchema.Proofs.Ddl.Default
import RelSchema.Proofs.Ddl.Listed

/-!
# References and lists of quoted names

A reference is the first bare word of its keyword among the tokens. Quoted names are never taken for
it, whatever they hold, and neither are the commas between them. Behind the keyword, the first token
names the table and the parentheses behind that token its columns.
-/

namespace RelSchema.Ddl

open Sql (Token Balanced SelfContained Unmarked isWordPart isQuote
  isBreak_closing isBreak_gap isBreak_opening)
open Sql.Pending (wordToken runToken parenToken)
open Text (IsReserved)

/-! ### Seams

Comments are removed before a text is read, and one may start across the border of two texts. A
seamless text ends in no character that starts one, so it can stand in front of any other.
-/

theorem getLast?_append_of {p : Char → Prop} {a b : List Char} (ha : ∀ c ∈ a.getLast?, p c)
    (hb : ∀ c ∈ b.getLast?, p c) : ∀ c ∈ (a ++ b).getLast?, p c := by
  intro c hc
  rw [List.getLast?_append] at hc
  cases hlast : b.getLast? with
  | none =>
      rw [hlast] at hc
      exact ha c hc
  | some last =>
      rw [hlast] at hc
      exact hb c (hlast.trans hc)

/-- A self-contained text with whose last character no comment starts. -/
structure Seamless (separator : Char) (text : List Char) : Prop where
  contained : SelfContained separator text
  last : ∀ c ∈ text.getLast?, c ≠ '-' ∧ c ≠ '/'

instance (separator : Char) (text : List Char) : Decidable (Seamless separator text) :=
  decidable_of_iff (SelfContained separator text ∧ ∀ c ∈ text.getLast?, c ≠ '-' ∧ c ≠ '/')
    ⟨fun h => ⟨h.1, h.2⟩, fun h => ⟨h.contained, h.last⟩⟩

namespace Seamless

variable {separator : Char}

theorem append {a b : List Char} (ha : Seamless separator a) (hb : Seamless separator b) :
    Seamless separator (a ++ b) where
  contained := ha.contained.append hb.contained fun c hc _ _ =>
    Sql.isMark_of_left (ha.last c hc).1 (ha.last c hc).2
  last := getLast?_append_of ha.last hb.last

theorem of_blank (hseparator : Text.isBlank separator = false) {gap : List Char}
    (hgap : ∀ c ∈ gap, Text.isBlank c = true) : Seamless separator gap where
  contained := .of_blank hseparator hgap
  last := fun c hc =>
    have hblank := hgap c (List.mem_of_mem_getLast? hc)
    ⟨Text.ne_of_isBlank hblank (by decide), Text.ne_of_isBlank hblank (by decide)⟩

theorem of_isSeparator (hseparator : Text.isBlank separator = false) {gap : List Char}
    (hgap : ∀ c ∈ gap, Text.isSeparator c = true) : Seamless separator gap :=
  of_blank hseparator fun c hc => Text.isBlank_of_isSeparator (hgap c hc)

theorem of_not_isReserved (hseparator : IsReserved separator) {w : List Char}
    (hw : ∀ c ∈ w, ¬ IsReserved c) : Seamless separator w := by
  have hne : ∀ c ∈ w, ∀ d, IsReserved d → c ≠ d := by
    rintro c hc d hd rfl
    exact hw c hc hd
  have hcode : ∀ c ∈ w, isQuote c = false ∧ c ≠ '(' ∧ c ≠ ')' := by
    intro c hc
    refine ⟨?_, hne c hc _ (by decide), hne c hc _ (by decide)⟩
    simp [isQuote, Sql.quotes, hne c hc '\'' (by decide), hne c hc '"' (by decide),
      hne c hc '\x60' (by decide)]
  refine ⟨.of_all hcode (fun hmem => hw separator hmem hseparator) ?_, fun c hc => ?_⟩
  · refine Unmarked.of_pairs (fun hpair => ?_) (fun hpair => ?_) none
    · exact hw '-' (hpair.subset (by simp)) (by decide)
    · exact hw '/' (hpair.subset (by simp)) (by decide)
  · have hmem := List.mem_of_mem_getLast? hc
    exact ⟨hne c hmem _ (by decide), hne c hmem _ (by decide)⟩

theorem enclosed {quote : Char} (hquote : isQuote quote = true) (s : List Char) :
    Seamless separator (Naming.enclosed quote s) where
  contained := .enclosed hquote s
  last := by
    intro c hc
    rw [Naming.enclosed, List.getLast?_append] at hc
    cases hc
    constructor
    all_goals
      rintro rfl
      revert hquote
      decide

theorem parenthesized (separator : Char) {text : List Char} (hbalanced : Balanced text)
    (hunmarked : Unmarked text) : Seamless separator ('(' :: text ++ [')']) where
  contained := .parenthesized separator hbalanced hunmarked
  last := by
    intro c hc
    rw [List.getLast?_append] at hc
    cases hc
    decide

/-- Keywords of letters stand for themselves in every spelling. -/
theorem of_spells (hseparator : IsReserved separator) (hblank : Text.isBlank separator = false)
    {words : List String} {text : List Char} (h : Spells words text)
    (hwords : ∀ word ∈ words, ∀ c ∈ word.toList, ¬ IsReserved c) : Seamless separator text := by
  induction h with
  | nil => exact ⟨.nil separator, fun c hc => by cases hc⟩
  | @cons word words gap w text hgap hne hw hupper hend htext ih =>
      have hletters := Text.not_isReserved_of_upper hupper (hwords word List.mem_cons_self)
      exact (of_isSeparator hblank hgap).append
        ((of_not_isReserved hseparator hletters).append
          (ih fun other hother => hwords other (List.mem_cons_of_mem word hother)))

end Seamless

theorem Spells.ne_nil {word : String} {words : List String} {text : List Char}
    (h : Spells (word :: words) text) : text ≠ [] := by
  cases h with
  | cons hgap hne => simp [hne]

theorem spells_references : Spells ["REFERENCES"] " REFERENCES".toList :=
  Spells.nil.cons_space (w := "REFERENCES".toList) (by decide) (by decide) (by decide) (by decide)

theorem reference?_append_of_not_isKeyword {before : List Token}
    (hbefore : ∀ token ∈ before, token.isKeyword ["REFERENCES"] = false) (tokens : List Token) :
    reference? (before ++ tokens) = reference? tokens := by
  rw [reference?, List.dropWhile_append_of_pos, ← reference?]
  intro token htoken
  rw [hbefore token htoken]
  rfl

/-- Whether a text behind the keyword spells the reference: it names the table and lists the columns
behind the name. -/
structure Targets (dialect : Dialect) (text : List Char) (reference : Reference) : Prop where
  head : ∀ c ∈ text.head?, isWordPart c = false
  reads : ∀ position, ∃ target rest, tokensAt dialect position text = target :: rest ∧
    target.isName = true ∧ objectName target = reference.table ∧
    Sql.listedNames rest = reference.columns

/-- The first token of a reference and the tokens behind it tell the reference, wherever it stands. -/
theorem Targets.of_tokens {dialect : Dialect} {text : List Char} {target : Token} {rest : List Token}
    (hhead : ∀ c ∈ text.head?, isWordPart c = false) (htokens : tokens dialect text = target :: rest)
    (hname : target.isName = true) :
    Targets dialect text ⟨objectName target, Sql.listedNames rest⟩ := by
  refine ⟨hhead, fun position => ?_⟩
  have hkeeps := Token.keeps_shift position
  refine ⟨target.shift position, rest.map (Token.shift position), ?_, ?_, ?_, ?_⟩
  · rw [tokensAt_eq_map_shift, htokens, List.map_cons]
  · rwa [hkeeps.isName]
  · exact objectName_map hkeeps (kind_ne_string_of_isName hname)
  · exact hkeeps.listedNames rest

theorem Targets.reference?_eq {dialect : Dialect} {link text : List Char} {reference : Reference}
    (h : Targets dialect text reference) (hlink : Spells ["REFERENCES"] link) (position : Nat) :
    reference? (tokensAt dialect position (link ++ text)) = some reference := by
  obtain ⟨keywords, hall, hlength, hstarts, -⟩ := hlink.exists_tokens dialect position h.head
  obtain ⟨keyword, rfl⟩ : ∃ keyword, keywords = [keyword] := List.length_eq_one_iff.mp hlength
  obtain ⟨target, rest, htokens, hname, htable, hcolumns⟩ := h.reads (position + link.length)
  have hkeyword : keyword.isKeyword ["REFERENCES"] = true := by
    have hstart := hstarts []
    rw [List.append_nil, startsWith, startsWith, Bool.and_true] at hstart
    exact hstart
  rw [hall, htokens, List.singleton_append, reference?,
    List.dropWhile_cons_of_neg (by simp [hkeyword])]
  simp only [hname, if_true, htable, hcolumns]

theorem ne_quoteChar_of_not_isQuote (dialect : Dialect) {c : Char} (hc : isQuote c = false) :
    c ≠ dialect.quoteChar := by
  rintro rfl
  rw [isQuote_quoteChar] at hc
  cases hc

/-- The characters that are taken off the ends of a bare name. -/
def nameMarks : List Char := ['\x60', '"', '\'', '[', ']']

/-- A word without blanks and marks is a name as it stands. -/
theorem unquoteIdentifier_eq_self {w : List Char}
    (hw : ∀ c ∈ w, Text.isBlank c = false ∧ c ∉ nameMarks) :
    Naming.unquoteIdentifier (.ofList w) = .ofList w := by
  have htrim : Text.trim w = w :=
    Text.trim_eq_self (fun c hc => (hw c (List.mem_of_mem_head? hc)).1)
      fun c hc => (hw c (List.mem_of_mem_getLast? hc)).1
  have hnone : ∀ c ∈ w, nameMarks.contains c = false := fun c hc => by simpa using (hw c hc).2
  have hleft : w.dropWhile nameMarks.contains = w := by
    cases w with
    | nil => rfl
    | cons first rest =>
        rw [List.dropWhile_cons_of_neg]
        rw [hnone first List.mem_cons_self]
        exact Bool.false_ne_true
  have hmarks : Text.trimSet nameMarks w = w := by
    rw [Text.trimSet, hleft]
    exact Text.dropEndWhile_eq_self fun c hc => hnone c (List.mem_of_mem_getLast? hc)
  rw [Naming.unquoteIdentifier, String.toList_ofList, htrim]
  exact congrArg String.ofList hmarks

theorem partNames_eq_self {w : List Char} (hne : w ≠ [])
    (hw : ∀ c ∈ w, Text.isBlank c = false ∧ c ≠ ',' ∧ c ∉ nameMarks) :
    partNames w = [.ofList w] := by
  have htrim : Text.trim w = w :=
    Text.trim_eq_self (fun c hc => (hw c (List.mem_of_mem_head? hc)).1)
      fun c hc => (hw c (List.mem_of_mem_getLast? hc)).1
  rw [partNames_of_not_mem fun hmem => (hw ',' hmem).2.1 rfl, htrim, if_neg hne,
    unquoteIdentifier_eq_self fun c hc => ⟨(hw c hc).1, (hw c hc).2.2⟩]

theorem plain_of_isWordChar {c : Char} (hc : Text.isWordChar c = true) :
    Text.isBlank c = false ∧ c ≠ ',' ∧ c ∉ nameMarks := by
  have hne : ∀ d, Text.isWordChar d = false → c ≠ d := by
    rintro d hd rfl
    rw [hc] at hd
    cases hd
  refine ⟨Text.isBlank_of_isWordChar hc, hne ',' (by decide), fun hmem => ?_⟩
  have hmarks : ∀ d ∈ nameMarks, Text.isWordChar d = false := by decide
  exact hne c (hmarks c hmem) rfl

theorem isWordPart_of_isWordChar {c : Char} (hc : Text.isWordChar c = true) :
    isWordPart c = true := by
  have hreserved := Text.not_isReserved_of_isWordChar hc
  have hsingle := isSingleWord_of_all (List.cons_ne_nil c []) (by simpa using hreserved)
  exact hsingle.isWordPart c List.mem_cons_self

structure SpelledName where
  letters : List Char
  isQuoted : Bool

namespace SpelledName

/-- The name in the quotes of the dialect, or bare. -/
def text (dialect : Dialect) (name : SpelledName) : List Char :=
  if name.isQuoted then Naming.enclosed dialect.quoteChar name.letters else name.letters

/-- Whether the name is not empty and has no punctuation if it is bare. -/
structure Regular (name : SpelledName) : Prop where
  ne_nil : name.letters ≠ []
  bare : name.isQuoted = false → ∀ c ∈ name.letters, Text.isWordChar c = true

instance (name : SpelledName) : Decidable name.Regular :=
  decidable_of_iff (name.letters ≠ [] ∧
    (name.isQuoted = false → ∀ c ∈ name.letters, Text.isWordChar c = true))
    ⟨fun h => ⟨h.1, h.2⟩, fun h => ⟨h.ne_nil, h.bare⟩⟩

variable {name : SpelledName} (dialect : Dialect)

theorem Regular.ofList_ne (h : name.Regular) : String.ofList name.letters ≠ "" := by
  intro hnone
  have hletters : String.ofList name.letters = String.ofList [] := hnone
  exact h.ne_nil (String.ofList_inj.mp hletters)

theorem Regular.seamless_text (h : name.Regular) (separator : Char)
    (hseparator : IsReserved separator) : Seamless separator (name.text dialect) := by
  unfold text
  cases hquoted : name.isQuoted with
  | true => exact .enclosed (isQuote_quoteChar dialect) _
  | false =>
      exact .of_not_isReserved hseparator fun c hc =>
        Text.not_isReserved_of_isWordChar (h.bare hquoted c hc)

theorem Regular.listed_append (h : name.Regular) {rest : List Char} (hrest : ∀ c ∈ rest.head?,
      isQuote c = false ∧ (name.isQuoted = false → isWordPart c = false)) :
    listed dialect (name.text dialect ++ rest) = .ofList name.letters :: listed dialect rest := by
  unfold text
  cases hquoted : name.isQuoted with
  | true =>
      rw [if_pos rfl, listed_name dialect _ fun c hc =>
        ne_quoteChar_of_not_isQuote dialect (hrest c hc).1]
  | false =>
      have hbare := h.bare hquoted
      have hplain : ∀ c ∈ name.letters, Text.isBlank c = false ∧ c ≠ ',' ∧ c ∉ nameMarks :=
        fun c hc => plain_of_isWordChar (hbare c hc)
      have htake : rest.takeWhile isWordPart = [] := by
        cases rest with
        | nil => rfl
        | cons c rest =>
            rw [List.takeWhile_cons_of_neg]
            rw [(hrest c rfl).2 hquoted]
            exact Bool.false_ne_true
      have hdrop : rest.dropWhile isWordPart = rest := by
        have hsplit : _ ++ _ = rest := List.takeWhile_append_dropWhile (p := isWordPart)
        rwa [htake, List.nil_append] at hsplit
      rw [if_neg Bool.false_ne_true,
        listed_word dialect (fun c hc => isWordPart_of_isWordChar (hbare c hc)), htake, hdrop,
        List.append_nil, partNames_eq_self h.ne_nil hplain]
      rfl

end SpelledName

/-- A name of a list with what stands around it up to the next comma. -/
structure ListedName where
  name : String
  before : List Char := []
  after : List Char := []

namespace ListedName

def text (dialect : Dialect) (listed : ListedName) : List Char :=
  listed.before ++ ((Naming.quoteIdentifier dialect listed.name).toList ++ listed.after)

structure Spaced (listed : ListedName) : Prop where
  before : ∀ c ∈ listed.before, Text.isSeparator c = true
  after : ∀ c ∈ listed.after, Text.isSeparator c = true

instance (listed : ListedName) : Decidable listed.Spaced :=
  decidable_of_iff ((∀ c ∈ listed.before, Text.isSeparator c = true) ∧
    ∀ c ∈ listed.after, Text.isSeparator c = true)
    ⟨fun h => ⟨h.1, h.2⟩, fun h => ⟨h.before, h.after⟩⟩

end ListedName

/-- The names of a list, each in the quotes of the dialect, with commas between them. -/
def namesText (dialect : Dialect) (names : List ListedName) : List Char :=
  [','].intercalate (names.map (ListedName.text dialect))

theorem toList_quoteIdentifier (dialect : Dialect) (name : String) :
    (Naming.quoteIdentifier dialect name).toList
      = Naming.enclosed dialect.quoteChar name.toList :=
  String.toList_ofList

section Names

variable (dialect : Dialect) {names : List ListedName}

theorem objectName_runToken (start : Nat) (content : List Char) (stop : Nat) :
    (runToken dialect.quoteChar start content.reverse stop).isName = true ∧
      objectName (runToken dialect.quoteChar start content.reverse stop) = .ofList content := by
  have hkind := kind_runToken_quoteChar dialect start content.reverse stop
  rw [Token.isName, objectName, hkind, runToken, List.reverse_reverse]
  exact ⟨rfl, rfl⟩

theorem ListedName.Spaced.seamless {listed : ListedName} (h : listed.Spaced) (separator : Char)
    (hseparator : Text.isBlank separator = false) : Seamless separator (listed.text dialect) := by
  rw [ListedName.text, toList_quoteIdentifier]
  exact (Seamless.of_isSeparator hseparator h.before).append
    ((Seamless.enclosed (isQuote_quoteChar dialect) _).append
      (Seamless.of_isSeparator hseparator h.after))

theorem ListedName.Spaced.listed_text {entry : ListedName} (h : entry.Spaced) :
    listed dialect (entry.text dialect) = [entry.name] := by
  have hend : ∀ c ∈ ([] : List Char).head?, c ≠ dialect.quoteChar := by simp
  have hname := listed_name dialect entry.name.toList hend
  have hblank : ∀ {gap : List Char}, (∀ c ∈ gap, Text.isSeparator c = true) →
      ∀ c ∈ gap, Text.isBlank c = true :=
    fun hgap c hc => Text.isBlank_of_isSeparator (hgap c hc)
  have hcontained : SelfContained ',' (Naming.enclosed dialect.quoteChar entry.name.toList) :=
    .enclosed (isQuote_quoteChar dialect) _
  rw [List.append_nil, String.ofList_toList] at hname
  rw [ListedName.text, toList_quoteIdentifier,
    listed_of_blank dialect (hblank h.before) hcontained.balanced (hblank h.after), hname, listed_nil]

theorem balanced_namesText (hnames : ∀ entry ∈ names, entry.Spaced) :
    ∀ text ∈ names.map (ListedName.text dialect), Balanced text := by
  intro text htext
  obtain ⟨entry, hentry, rfl⟩ := List.mem_map.mp htext
  exact ((hnames entry hentry).seamless dialect ',' (by decide)).contained.balanced

theorem listed_namesText (hnames : ∀ entry ∈ names, entry.Spaced) :
    listed dialect (namesText dialect names) = names.map (·.name) := by
  rw [namesText, listed_intercalate dialect (balanced_namesText dialect hnames), List.flatMap_map,
    List.map_eq_flatMap]
  exact List.flatMap_congr fun entry hentry => (hnames entry hentry).listed_text dialect

theorem seamless_namesText (hnames : ∀ entry ∈ names, entry.Spaced) :
    Seamless ';' (namesText dialect names) := by
  induction names with
  | nil => exact ⟨.nil ';', fun c hc => by cases hc⟩
  | cons entry rest ih =>
      have hentry := (hnames entry List.mem_cons_self).seamless dialect ';' (by decide)
      have hrest := ih fun other hother => hnames other (List.mem_cons_of_mem entry hother)
      cases rest with
      | nil => simpa [namesText] using hentry
      | cons next rest =>
          have hcomma : Seamless ';' [','] := by decide
          rw [namesText, List.map_cons, List.map_cons, List.intercalate_cons_cons, List.append_assoc]
          exact hentry.append (hcomma.append hrest)

/-- A list starts with a name and goes on behind a comma. -/
theorem exists_namesText_cons (entry : ListedName) (rest : List ListedName) :
    ∃ tail, namesText dialect (entry :: rest)
        = entry.before ++ (Naming.enclosed dialect.quoteChar entry.name.toList
          ++ (entry.after ++ tail)) ∧
      (tail = [] ∨ tail = ',' :: namesText dialect rest) := by
  cases rest with
  | nil =>
      refine ⟨[], ?_, Or.inl rfl⟩
      simp [namesText, ListedName.text, toList_quoteIdentifier]
  | cons next rest =>
      refine ⟨',' :: namesText dialect (next :: rest), ?_, Or.inr rfl⟩
      simp [namesText, ListedName.text, toList_quoteIdentifier, List.intercalate_cons_cons]

theorem head?_namesText (hnames : ∀ entry ∈ names, entry.Spaced) :
    ∀ c ∈ (namesText dialect names).head?, isWordPart c = false := by
  cases names with
  | nil => simp [namesText]
  | cons entry rest =>
      obtain ⟨tail, hsplit, -⟩ := exists_namesText_cons dialect entry rest
      rw [hsplit]
      refine head?_append_of (fun c hc => ?_) fun c hc => ?_
      · have hseparator := (hnames entry List.mem_cons_self).before c (List.mem_of_mem_head? hc)
        simp [isWordPart, hseparator]
      · cases hc
        simp [isWordPart, isQuote_quoteChar]

/-- No token of the list is the keyword of a reference, whatever its names are. -/
theorem not_isKeyword_of_mem_namesText (hnames : ∀ entry ∈ names, entry.Spaced) (position : Nat) :
    ∀ token ∈ tokensAt dialect position (namesText dialect names),
      token.isKeyword ["REFERENCES"] = false := by
  induction names generalizing position with
  | nil => simp [namesText]
  | cons entry rest ih =>
      have hentry := hnames entry List.mem_cons_self
      have hrest : ∀ other ∈ rest, other.Spaced :=
        fun other hother => hnames other (List.mem_cons_of_mem entry hother)
      obtain ⟨tail, hsplit, htail⟩ := exists_namesText_cons dialect entry rest
      have hbehind : ∀ c ∈ (entry.after ++ tail).head?, c ≠ dialect.quoteChar := by
        refine head?_append_of (fun c hc => ne_quoteChar_of_not_isQuote dialect ?_) fun c hc =>
          ne_quoteChar_of_not_isQuote dialect ?_
        · exact (Sql.not_isQuote_of_isSeparator (hentry.after c (List.mem_of_mem_head? hc))).1
        · rcases htail with rfl | rfl <;> cases hc
          decide
      have hcomma : ∀ start stop, (wordToken start [','].reverse stop).isKeyword ["REFERENCES"]
          = false := by
        intro start stop
        rw [isKeyword_wordToken]
        decide
      intro token htoken
      rw [hsplit, tokensAt_gap dialect position hentry.before, tokensAt_name dialect _ _ hbehind,
        tokensAt_gap dialect _ hentry.after] at htoken
      rcases List.mem_cons.mp htoken with rfl | htoken
      · exact isKeyword_of_kind_ne (by rw [kind_runToken_quoteChar]; decide) _
      · rcases htail with rfl | rfl
        · cases htoken
        · rw [← List.singleton_append, tokensAt_word dialect _ (by decide) (by decide)
            (head?_namesText dialect hrest)] at htoken
          rcases List.mem_cons.mp htoken with rfl | htoken
          · exact hcomma _ _
          · exact ih hrest _ token htoken

end Names

theorem spells_key : Spells ["KEY"] " KEY".toList :=
  Spells.nil.cons_space (w := "KEY".toList) (by decide) (by decide) (by decide) (by decide)

theorem spells_foreignKey : Spells ["FOREIGN", "KEY"] "FOREIGN KEY".toList :=
  @Spells.cons "FOREIGN" ["KEY"] [] "FOREIGN".toList " KEY".toList (by decide) (by decide)
    (by decide) (by decide) (by decide) spells_key

/-- The part of a foreign key constraint in front of its reference. -/
def foreignKeyStart (words gap columns : List Char) : List Char :=
  words ++ (gap ++ ('(' :: columns ++ [')']))

section Constraint

variable {dialect : Dialect} {words gap columns : List Char}

/-- A foreign key constraint pairs its columns with those of its reference, whose keyword is not among
them. -/
theorem readDefinition_foreignKey (hwords : Spells ["FOREIGN", "KEY"] words)
    (hgap : ∀ c ∈ gap, Text.isSeparator c = true) (hcolumns : Balanced columns)
    (hkeyword : ∀ token ∈ tokens dialect columns, token.isKeyword ["REFERENCES"] = false)
    {link text : List Char} {reference : Reference} (hlink : Spells ["REFERENCES"] link)
    (htext : Targets dialect text reference) :
    readDefinition dialect (foreignKeyStart words gap columns ++ (link ++ text))
      = .foreignKeys (pairColumns reference.table (listed dialect columns) reference.columns) := by
  set rest := link ++ text with hrest
  have hsplit : foreignKeyStart words gap columns ++ rest
      = words ++ (gap ++ '(' :: (columns ++ ')' :: rest)) := by
    simp [foreignKeyStart]
  have hbehind : ∀ c ∈ (gap ++ '(' :: (columns ++ ')' :: rest)).head?, isWordPart c = false :=
    fun c hc => (isBreak_gap hgap (fun _ => isBreak_opening _) c hc).2
  obtain ⟨keywords, htokens, hlength, hstarts, -⟩ := hwords.exists_tokens dialect 0 hbehind
  have htwo : keywords.length = 2 := hlength
  have hprimary : ∀ more, startsWith ["PRIMARY", "KEY"] (keywords ++ more) = false := by
    intro more
    by_contra hstart
    have hforeign := head?_eq_of_startsWith (hstarts more)
    rw [head?_eq_of_startsWith (Bool.not_eq_false _ ▸ hstart)] at hforeign
    exact absurd hforeign (by decide)
  -- the search for the reference passes over the columns
  have hreference : reference? (tokensAt dialect (0 + words.length)
      (gap ++ '(' :: (columns ++ ')' :: rest))) = some reference := by
    have hparen : ∀ kind c position, kind ≠ .word →
        ∀ token ∈ [parenToken kind c position], token.isKeyword ["REFERENCES"] = false := by
      intro kind c position hkind token htoken
      rw [List.mem_singleton.mp htoken]
      exact isKeyword_of_kind_ne hkind _
    have hcolumnTokens : ∀ position, ∀ token ∈ tokensAt dialect position columns,
        token.isKeyword ["REFERENCES"] = false := by
      intro position token htoken
      rw [tokensAt_eq_map_shift] at htoken
      obtain ⟨found, hfound, rfl⟩ := List.mem_map.mp htoken
      rw [(Token.keeps_shift position).isKeyword]
      exact hkeyword found hfound
    rw [tokensAt_gap dialect _ hgap, tokensAt_opening,
      tokensAt_append dialect hcolumns.openQuote_eq (isBreak_closing rest), tokensAt_closing,
      ← List.singleton_append, reference?_append_of_not_isKeyword (hparen _ _ _ (by decide)),
      reference?_append_of_not_isKeyword (hcolumnTokens _),
      ← List.singleton_append, reference?_append_of_not_isKeyword (hparen _ _ _ (by decide))]
    exact htext.reference?_eq hlink _
  rw [hsplit, readDefinition, tokens_eq_tokensAt, htokens, hprimary, if_neg Bool.false_ne_true,
    hstarts, if_pos rfl, List.drop_left' htwo, constraintKeys, hreference]
  simp only [listedNames_parenthesized dialect _ hgap hcolumns rest]

end Constraint

end RelSchema.Ddl
