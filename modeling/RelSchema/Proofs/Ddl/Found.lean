import RelSchema.Proofs.Ddl.Body
import RelSchema.Proofs.Ddl.NormalForm

/-!
# What is found of a column

A clause that stands for itself gives its column. From any other clause a column is found that
differs in its type or its default, whatever follows the clause; or no column, if the type is blank.
-/

namespace RelSchema.Ddl

open Sql (Token Balanced SelfContained Unmarked stripComments)

/-- The clause of a column up to its default. -/
def frontText (dialect : Dialect) (name type : List Char) (mark : Nullability) : List Char :=
  clauseText dialect name type mark (some [])

theorem clauseText_some (dialect : Dialect) (name type : List Char) (mark : Nullability)
    (text : List Char) :
    clauseText dialect name type mark (some text) = frontText dialect name type mark ++ text := by
  simp only [frontText, clauseText, modifierPart, defaultPart, List.append_assoc, List.cons_append,
    List.nil_append]

theorem selfContained_frontText (dialect : Dialect) (name : List Char) {type : List Char}
    (mark : Nullability) (htype : SelfContained ',' type) :
    SelfContained ',' (frontText dialect name type mark) := by
  refine selfContained_clauseText dialect name mark htype fun text htext => ?_
  cases htext
  exact .nil ','

theorem getLast?_frontText (dialect : Dialect) (name type : List Char) (mark : Nullability) :
    (frontText dialect name type mark).getLast? = some ' ' := by
  have hsplit : frontText dialect name type mark
      = (Naming.enclosed dialect.quoteChar name ++ ' ' :: (type ++ (mark.text.toList ++
        ' ' :: "DEFAULT".toList))) ++ [' '] := by
    simp only [frontText, clauseText, modifierPart, defaultPart, List.append_assoc,
      List.cons_append]
  rw [hsplit, List.getLast?_append]
  rfl

theorem clausesText_cons (clause : List Char) (clauses : List (List Char)) (rest : List Char) :
    ∃ c more, (c = ',' ∨ c = '\n') ∧
      clausesText (clause :: clauses) ++ rest = clause ++ c :: more := by
  cases clauses with
  | nil => exact ⟨'\n', rest, Or.inr rfl, by simp [clausesText]⟩
  | cons next clauses =>
      exact ⟨',', _, Or.inl rfl, by rw [clausesText, List.append_assoc]; rfl⟩

/-- The first part of a text that starts plainly is not empty and starts as the text does. -/
theorem exists_first_part {text : List Char} (hbalanced : Balanced text) (hunmarked : Unmarked text)
    {c : Char} (hc : c ∈ text.head?) (hcode : Text.isBlank c = false) (hcomma : c ≠ ',') :
    ∃ part gap parts tail, Sql.segments ',' text = (part ++ gap) :: parts ∧
      text = part ++ (gap ++ tail) ∧ SelfContained ',' part ∧ Sql.Trimmed part ∧
      ∀ d ∈ gap, Text.isBlank d = true := by
  obtain ⟨first, parts, hsegments, hfirst, hwhole, -⟩ :=
    Sql.balanced_segmentsFrom Sql.isSeparating_comma hbalanced
  obtain ⟨first', parts', tail, hsegments', rfl, hfirstUnmarked, -⟩ :=
    Sql.exists_segmentsFrom Sql.isSeparating_comma.not_isQuote hunmarked
  obtain ⟨rfl, rfl⟩ : first = first' ∧ parts = parts' := by
    have hsame := hsegments.symm.trans hsegments'
    exact List.cons.injEq .. ▸ hsame
  have hhead : c ∈ first.head? := by
    cases first with
    | cons d first => exact hc
    | nil =>
        obtain ⟨others, rfl⟩ : ∃ others, tail = c :: others := by
          cases tail with
          | nil => cases hc
          | cons d others =>
              cases hc
              exact ⟨others, rfl⟩
        rw [List.nil_append, Sql.segmentsFrom_cons, if_neg] at hsegments'
        · revert hsegments'
          cases Sql.segmentsFrom ',' (Sql.quoteAfter Sql.quotes none c)
            (if (none : Option Char) == none then Sql.depthAfter 0 c else 0) others <;>
            simp [Sql.attach]
        · simp [Sql.isCut, hcomma]
  have hblank : ∀ d ∈ first.head?, Text.isBlank d = false := by
    intro d hd
    rw [Option.mem_unique hd hhead]
    exact hcode
  obtain ⟨gap, hsplit, hgap⟩ := Text.exists_eq_trim_append hblank
  obtain ⟨htrimBalanced, htrimWhole⟩ :=
    Sql.trim_balanced_whole hfirst hwhole Sql.isSeparating_comma
  refine ⟨Text.trim first, gap, parts, tail, ?_, ?_, ⟨htrimBalanced, htrimWhole, ?_⟩, ⟨?_, ?_, ?_⟩,
    hgap⟩
  · rw [← hsplit]
    exact hsegments
  · rw [← List.append_assoc, ← hsplit]
  · exact Unmarked.trim hfirstUnmarked
  · exact Text.trim_ne_nil (List.mem_of_mem_head? hhead) hcode
  · intro d hd
    refine hblank d ?_
    rw [hsplit]
    exact mem_head?_append hd gap
  · exact fun d hd => Text.getLast?_trim hd

theorem StartsPlainly.exists_head {text : List Char} (h : StartsPlainly text) :
    ∃ c, text.head? = some c ∧ c ≠ ',' ∧ c ≠ ')' := by
  obtain ⟨c, rest, rfl, hc⟩ := h
  refine ⟨c, rfl, ?_⟩
  rcases hc with rfl | rfl | hcode | ⟨rfl, -⟩
  · decide
  · decide
  · constructor <;> rintro rfl <;> exact hcode (by decide)
  · decide

/-- A front that stands for itself belongs to the first definition of what follows it. -/
theorem definitions_append_front {front : List Char} (hfront : SelfContained ',' front)
    (hfirst : ∀ c ∈ front.head?, Text.isBlank c = false) (hne : front ≠ []) {gap : List Char}
    (hgap : ∀ c ∈ gap, Text.isBlank c = true) {shown text gap' : List Char}
    {parts : List (List Char)} (hsegments : Sql.segments ',' shown = (text ++ gap') :: parts)
    (htext : Sql.Trimmed text) (hgap' : ∀ c ∈ gap', Text.isBlank c = true) :
    Sql.definitions (gap ++ front ++ shown)
      = (front ++ text) :: (parts.map Text.trim).filter (!·.isEmpty) := by
  have hgapBalanced := balanced_of_blank hgap
  have hwhole : Sql.IsWhole ',' (gap ++ front) :=
    (SelfContained.of_blank Sql.isSeparating_comma.not_isBlank hgap).whole.append hgapBalanced
      hfront.whole
  have hparts : Sql.segments ',' (gap ++ front ++ shown)
      = (gap ++ (front ++ text) ++ gap') :: parts := by
    rw [Sql.segments_append_of_whole hwhole (hgapBalanced.append hfront.balanced)]
    have hattach : Sql.attach (gap ++ front) (Sql.segments ',' shown)
        = (gap ++ (front ++ text) ++ gap') :: parts := by
      rw [hsegments, Sql.attach]
      simp only [List.append_assoc]
    exact hattach
  have htrim : Text.trim (gap ++ (front ++ text) ++ gap') = front ++ text := by
    refine Text.trim_append_append hgap hgap' (fun e he => ?_) fun e he => ?_
    · obtain ⟨e', front', rfl⟩ := List.exists_cons_of_ne_nil hne
      exact hfirst e he
    · rw [List.getLast?_append_of_ne_nil _ htext.ne_nil] at he
      exact htext.last e he
  rw [Sql.definitions, Sql.splitTopLevel, hparts, List.map_cons, htrim, List.filter_cons_of_pos]
  simp [hne]

/-- Behind the front of a clause, a default that is written as it is gives the text of a default
that stands for itself, which may be another one. -/
theorem ReadFrom.exists_of_front {front : List Char} (hfront : SelfContained ',' front)
    (hfirst : ∀ c ∈ front.head?, Text.isBlank c = false) (hlast : front.getLast? = some ' ')
    {value : String} (hraw : renderDefault value = value) {clauses : List (List Char)}
    {body : List Char} (h : ReadFrom ((front ++ value.toList) :: clauses) body) :
    ∃ text rest after others, Sql.definitions body = (front ++ text) :: others ∧
      SelfContained ',' text ∧ Sql.Trimmed text ∧ rest.head? ≠ some '\'' ∧
      stripComments (value.toList ++ rest) = text ++ after := by
  obtain ⟨gap, rest, behind, hgap, hbody, hall⟩ := h
  obtain ⟨c, more, hc, hclauses⟩ :=
    clausesText_cons (front ++ value.toList) clauses (')' :: rest)
  have hstrip : stripComments (front ++ (value.toList ++ c :: more))
      = front ++ stripComments (value.toList ++ c :: more) := by
    refine Sql.stripComments_append hfront.unmarked hfront.balanced.openQuote_eq (fun d hd => ?_) _
    rw [hlast] at hd
    cases hd
    decide
  rw [hclauses, List.append_assoc, hstrip, ← List.append_assoc] at hall
  obtain ⟨shown, rfl, hshown, hshownBalanced⟩ :=
    exists_eq_append_of_closing ((balanced_of_blank hgap).append hfront.balanced) hbody hall
  have hstarts := (startsPlainly_of_renderDefault hraw).append (c :: more)
  obtain ⟨d, hd, hcomma, hclose⟩ := hstarts.exists_head
  have hblank := hstarts.isBlank_head? d hd
  rw [← hstarts.head?_stripComments, hshown] at hd
  have hhead : d ∈ shown.head? := by
    cases shown with
    | nil =>
        cases hd
        exact absurd rfl hclose
    | cons e shown => exact hd
  have hunmarked : Unmarked shown := by
    have hkept := Sql.unmarked_stripComments (value.toList ++ c :: more)
    rw [hshown] at hkept
    exact hkept.of_append_left
  obtain ⟨text, gap', parts, tail, hsegments, hsplit, htext, htrimmed, hgap'⟩ :=
    exists_first_part hshownBalanced hunmarked hhead hblank hcomma
  have hne : front ≠ [] := by
    rintro rfl
    cases hlast
  refine ⟨text, c :: more, gap' ++ tail ++ ')' :: behind, _,
    definitions_append_front hfront hfirst hne hgap hsegments htrimmed hgap', htext, htrimmed,
    ?_, ?_⟩
  · rcases hc with rfl | rfl <;> simp
  · rw [hshown, hsplit]
    simp only [List.append_assoc]

def columnsOf (dialect : Dialect) (body : List Char) : List Column :=
  ((Sql.definitions body).map (readDefinition dialect)).filterMap Definition.column?

theorem columnsOf_of_column {dialect : Dialect} {body text : List Char} {texts : List (List Char)}
    {column : Column} (hbody : Sql.definitions body = text :: texts)
    (hread : readDefinition dialect text = .column column) :
    columnsOf dialect body
      = column :: (texts.map (readDefinition dialect)).filterMap Definition.column? := by
  rw [columnsOf, hbody, List.map_cons, hread]
  rfl

structure Matches (found column : Column) : Prop where
  type_eq : found.type = column.type
  default_eq : found.defaultValue = column.defaultValue
  nullable : column.isNullable = true → found.isNullable = true

/-- Whether the clause of a column ends in a type that ends in a blank. -/
structure Fading (column : Column) : Prop where
  nullable : column.isNullable = true
  without_default : column.defaultValue = none
  blank : ¬ EndsInCode column.type.toList

theorem Fading.of_matches {found column : Column} (h : Matches found column)
    (hfading : Fading column) : Fading found where
  nullable := h.nullable hfading.nullable
  without_default := h.default_eq.trans hfading.without_default
  blank := h.type_eq ▸ hfading.blank

section Column

variable {dialect : Dialect} {keys : List String} {column : Column} (hparsed : ParsedColumn column)

include hparsed

theorem selfContained_type : SelfContained ',' column.type.toList := by
  obtain ⟨word, tail, htext, hread⟩ := hparsed.read_type
  rw [htext]
  exact hread.contained

/-- What is found of a column with a default that is written as it is has the same default only if
the default stands for itself. -/
theorem exists_found_of_raw {value : String} (hraw : rawDefault? column = some value)
    {clauses : List (List Char)} {body : List Char}
    (h : ReadFrom (columnText dialect keys column :: clauses) body) :
    ∃ found others, columnsOf dialect body = found :: others ∧ found.defaultValue ≠ none ∧
      (found.defaultValue = column.defaultValue →
        SelfContained ',' value.toList ∧ EndsInCode value.toList) := by
  obtain ⟨word, tail, htype, hread⟩ := hparsed.read_type
  have hrender := renderDefault_of_rawDefault? hraw
  have hvalue : column.defaultValue = some value := (Option.filter_eq_some_iff.mp hraw).1
  have hclause : columnText dialect keys column
      = frontText dialect column.name.toList column.type.toList (nullability keys column)
        ++ value.toList := by
    rw [columnText, typeText_parsed hparsed, defaultText?, hvalue, Option.map_some, hrender,
      clauseText_some]
  have hfirst : ∀ c ∈ (frontText dialect column.name.toList column.type.toList
      (nullability keys column)).head?, Text.isBlank c = false := by
    intro c hc
    cases hc
    cases dialect <;> decide
  rw [hclause] at h
  obtain ⟨text, rest, after, others, hbody, htext, htrimmed, hrest, hstrip⟩ :=
    h.exists_of_front (selfContained_frontText dialect _ _ (selfContained_type hparsed)) hfirst
      (getLast?_frontText ..) hrender
  have hname : column.name.toList ≠ [] := by simpa using hparsed.name_ne
  have htokens : ∀ other ∈ some text, tokens dialect other ≠ [] := by
    intro other hother
    cases hother
    exact tokens_ne_nil htrimmed.ne_nil htrimmed.first
  have hfound := readDefinition_clauseText dialect (nullability keys column) hname
    hread.ne_nil hread.code hread.head hread.goes_on htokens
  rw [← htype, clauseText_some] at hfound
  have hdefault : (clauseColumn dialect (.ofList column.name.toList) word column.type.toList
      (nullability keys column) (some text)).defaultValue = some (readDefault dialect text) := by
    rw [clauseColumn]
    split <;> rfl
  refine ⟨_, _, columnsOf_of_column hbody hfound, ?_, fun hsame => ?_⟩
  · rw [hdefault]
    exact Option.some_ne_none _
  · rw [hdefault, hvalue, Option.some.injEq] at hsame
    exact selfContained_of_readDefault hrender hrest hstrip htext htrimmed.ne_nil hsame

/-- A clause that stands for itself gives its column, and the body goes on behind it. -/
theorem exists_found_of_sealed (hsealed : Sealed column) {clauses : List (List Char)}
    {body : List Char} (h : ReadFrom (columnText dialect keys column :: clauses) body) :
    ∃ more, ReadFrom clauses more ∧
      columnsOf dialect body = foundColumn dialect keys column :: columnsOf dialect more := by
  obtain ⟨more, hmore, hbody⟩ := h.exists_of_cons (List.append_nil _).symm
    (hsealed.standing hparsed) (by simp)
  exact ⟨more, hmore, columnsOf_of_column hbody (readDefinition_parsed hparsed)⟩

omit hparsed in
theorem not_fading_foundColumn (hsealed : Sealed column) :
    ¬ Fading (foundColumn dialect keys column) := by
  rintro ⟨hnullable, hdefault, hblank⟩
  obtain ⟨-, htype, -, -, hnull, hvalue⟩ :=
    Column.withoutReference_eq_iff.mp (withoutReference_foundColumn dialect keys column)
  rw [hnull] at hnullable
  rw [hvalue, Option.map_eq_none_iff, defaultText?, Option.map_eq_none_iff] at hdefault
  rw [htype] at hblank
  refine hblank (hsealed.type_ends ?_ hdefault)
  refine @isNullable_of_nullability keys column ?_
  cases hmark : nullability keys column with
  | nullable => rfl
  | primaryKey | notNull =>
      rw [hmark] at hnullable
      simp at hnullable

end Column

theorem Spells.endsInCode {words : List String} {text : List Char} (h : Spells words text)
    (hwords : ∀ word ∈ words, ∀ c ∈ word.toList, ¬ Text.IsReserved c) : EndsInCode text := by
  induction h with
  | nil => exact fun c hc => by cases hc
  | @cons word words gap w text hgap hne hw hupper hend htext ih =>
      have hw' : EndsInCode w := by
        intro c hc
        by_contra hblank
        refine Text.not_isReserved_of_upper hupper (hwords word List.mem_cons_self) c
          (List.mem_of_mem_getLast? hc) (Text.isReserved_of_isBlank ?_)
        simpa using hblank
      have hrest := hw'.append (ih fun other hother => hwords other (List.mem_cons_of_mem word hother))
      intro c hc
      rw [List.getLast?_append_of_ne_nil _ (List.append_ne_nil_of_left_ne_nil hne text)] at hc
      exact hrest c hc

theorem TypeTail.endsInCode {tail : List Char} (h : TypeTail tail) : EndsInCode tail := by
  induction h with
  | nil => exact fun c hc => by cases hc
  | @group gap inner tail hgap hinner htail ih =>
      have hsplit : gap ++ ('(' :: inner ++ ')' :: tail) = (gap ++ '(' :: inner ++ [')']) ++ tail := by
        simp
      rw [hsplit]
      refine EndsInCode.append (fun c hc => ?_) ih
      rw [List.getLast?_append] at hc
      cases hc
      decide
  | phrase hwords htext hend htail ih =>
      have hcode : ∀ words ∈ typeSuffixes, ∀ word ∈ words, ∀ c ∈ word.toList,
          ¬ Text.IsReserved c := by decide
      exact (htext.endsInCode (hcode _ hwords)).append ih

/-- A type that ends in a blank is one word up to blanks. -/
theorem exists_of_not_endsInCode {column : Column} (hparsed : ParsedColumn column)
    (hblank : ¬ EndsInCode column.type.toList) :
    ∃ word blanks, column.type.toList = word ++ blanks ∧ blanks ≠ [] ∧
      (∀ c ∈ blanks, Text.isBlank c = true) ∧ EndsInCode word ∧
      (∀ c ∈ word, Sql.isWordPart c = true) ∧ SelfContained ',' word := by
  obtain ⟨word, tail, htype, hread⟩ := hparsed.read_type
  obtain rfl : tail = [] := by
    by_contra hne
    refine hblank fun c hc => ?_
    rw [htype, List.getLast?_append_of_ne_nil _ hne] at hc
    exact hread.goes_on.endsInCode c hc
  rw [List.append_nil] at htype
  obtain ⟨blanks, hsplit, hblanks⟩ := Text.exists_eq_dropEndWhile_append Text.isBlank word
  have hends : EndsInCode (Text.dropEndWhile Text.isBlank word) :=
    fun c hc => Text.getLast?_dropEndWhile hc
  set front := Text.dropEndWhile Text.isBlank word with hfront
  have hcode : ∀ c ∈ front, Sql.isWordPart c = true :=
    fun c hc => hread.code c (hsplit ▸ List.mem_append_left blanks hc)
  have hbalanced : Balanced front := .of_isWordPart hcode
  have hcontained : SelfContained ',' (front ++ blanks) := by
    have hword := hread.contained
    rwa [List.append_nil, hsplit] at hword
  refine ⟨front, blanks, htype.trans hsplit, ?_, hblanks, hends, hcode,
    ⟨hbalanced, hcontained.whole.of_append_left, hcontained.unmarked.of_append_left⟩⟩
  rintro rfl
  rw [List.append_nil] at hsplit
  rw [htype, hsplit] at hblank
  exact hblank hends

theorem readDefinition_enclosed (dialect : Dialect) (name : List Char) :
    readDefinition dialect (Naming.enclosed dialect.quoteChar name) = .nothing := by
  have hend : ∀ c ∈ ([] : List Char).head?, c ≠ dialect.quoteChar := by simp
  have htokens := tokensAt_name dialect 0 name hend
  rw [List.append_nil, tokensAt_nil] at htokens
  have hkind := kind_runToken_quoteChar dialect 0 name.reverse
    (0 + (Naming.enclosed dialect.quoteChar name).length)
  rw [readDefinition_of_kind_ne (tokens_eq_tokensAt dialect _ ▸ htokens) (by rw [hkind]; decide),
    tokens_eq_tokensAt, htokens]
  rfl

theorem standing_enclosed (dialect : Dialect) (name : List Char) :
    Standing (Naming.enclosed dialect.quoteChar name) := by
  refine ⟨.enclosed (isQuote_quoteChar dialect) name, by simp [Naming.enclosed], ?_, ?_⟩
  · intro c hc
    cases hc
    cases dialect <;> decide
  · intro c hc
    rw [Naming.enclosed, List.getLast?_append] at hc
    cases hc
    cases dialect <;> decide

section Fading

variable {dialect : Dialect} {keys : List String} {column : Column} (hparsed : ParsedColumn column)
  (hfading : Fading column) (hmark : nullability keys column = .nullable)

include hparsed hfading hmark

theorem columnText_of_fading :
    columnText dialect keys column
      = Naming.enclosed dialect.quoteChar column.name.toList ++ ' ' :: column.type.toList := by
  rw [columnText, typeText_parsed hparsed, hmark, defaultText?, hfading.without_default, clauseText,
    modifierPart]
  simp [Nullability.text, defaultPart]

/-- A column with a type that ends in a blank is found with a shorter type or not at all. -/
theorem exists_found_of_fading {clauses : List (List Char)} {body : List Char}
    (h : ReadFrom (columnText dialect keys column :: clauses) body) :
    (∃ found others, columnsOf dialect body = found :: others ∧ ¬ Fading found ∧
        ¬ Matches found column) ∨
      ∃ more, ReadFrom clauses more ∧ columnsOf dialect body = columnsOf dialect more := by
  obtain ⟨word, blanks, htype, hne, hblanks, hends, hcode, hword⟩ :=
    exists_of_not_endsInCode hparsed hfading.blank
  have hname : column.name.toList ≠ [] := by simpa using hparsed.name_ne
  rw [columnText_of_fading hparsed hfading hmark, htype] at h
  by_cases hnil : word = []
  · subst hnil
    have hspace : ∀ c ∈ ' ' :: blanks, Text.isBlank c = true := by
      intro c hc
      rcases List.mem_cons.mp hc with rfl | hc
      · decide
      · exact hblanks c hc
    obtain ⟨more, hmore, hbody⟩ := h.exists_of_cons rfl (standing_enclosed dialect _) hspace
    refine Or.inr ⟨more, hmore, ?_⟩
    rw [columnsOf, hbody, List.map_cons, readDefinition_enclosed]
    rfl
  · have hclause : clauseText dialect column.name.toList word .nullable none
        = Naming.enclosed dialect.quoteChar column.name.toList ++ ' ' :: word := by
      rw [clauseText, modifierPart]
      simp [Nullability.text, defaultPart]
    have hstanding : Standing (clauseText dialect column.name.toList word .nullable none) :=
      standing_clauseText dialect _ _ hword (by simp)
        (endsInCode_modified hnil _ (fun _ _ => hends) (by simp))
    have hend : ∀ c ∈ ([] : List Char).head?, Sql.isWordPart c = false := by simp
    have hnone : ∀ text ∈ (none : Option (List Char)), tokens dialect text ≠ [] := by simp
    have hread := readDefinition_clauseText dialect .nullable hname hnil hcode hend .nil hnone
    rw [List.append_nil] at hread
    have hsplit : Naming.enclosed dialect.quoteChar column.name.toList ++ ' ' :: (word ++ blanks)
        = clauseText dialect column.name.toList word .nullable none ++ blanks := by
      rw [hclause]
      simp
    obtain ⟨more, -, hbody⟩ := h.exists_of_cons hsplit hstanding hblanks
    refine Or.inl ⟨_, _, columnsOf_of_column hbody hread, fun hfound => ?_, fun hfound => ?_⟩
    · refine hfound.blank ?_
      rw [show (clauseColumn dialect (.ofList column.name.toList) word word .nullable none).type
        = .ofList word from rfl, String.toList_ofList]
      exact hends
    · have hsame : word = column.type.toList := by
        rw [← hfound.type_eq]
        exact String.toList_ofList.symm
      rw [htype] at hsame
      exact hne (List.self_eq_append_right.mp hsame)

end Fading

end RelSchema.Ddl
