import RelSchema.Ddl.Script
import RelSchema.Proofs.Models.Field

/-!
# Sizes in the tags of columns

The tag of a column holds the size of its type as it is, while the default is escaped and quoted.
So it depends on the size alone whether the tags of all columns of a type are read back: the size
may not end the tag, leave a value open, or hold an option that is read for one of the column's own.
-/

namespace RelSchema.Models

def sizeOption (size : String) : List Char :=
  "size:".toList ++ unescape size.toList

theorem sizeOption_eq (size : String) :
    sizeOption size = "size:".toList ++ unescape size.toList := rfl

/-- The names of the options that a column is read from. -/
def columnKeys : List String := ["primarykey", "column", "not null", "default"]

/-- Whether a size leaves the options around it alone, if it stands in a tag as it is. -/
structure Harmless (size : String) : Prop where
  sealed : Sealed size.toList
  closed : (OptionPlace.outside none).after (sizeOption size) ≠ .inside
  foreign : ∀ part ∈ optionParts (sizeOption size), (readOption part).1 ∉ columnKeys

/-- Whether options tell the name of a column, whether it is a key, whether it needs a value, and
its default. -/
structure Describes (options : Options) (column : Column) : Prop where
  name : options.get? "column" = some column.name
  key : options.has "primarykey" = column.isPrimaryKey
  required : options.has "not null" = !(column.isNullable || column.isPrimaryKey)
  default : options.get? "default" = column.defaultValue

/-- Whether a column has a word for its name, and a trimmed default if any. -/
structure Taggable (column : Column) : Prop where
  name_word : ∀ c ∈ column.name.toList, Text.isWordChar c = true
  default_trim : ∀ value ∈ column.defaultValue,
    value ≠ "" ∧ Text.trim value.toList = value.toList

theorem get?_readTag (text : List Char) (tag : String) {key : String} (hkey : key ≠ "") :
    (readTag text tag).get? key
      = Keyed.get? ((optionParts (optionText text tag)).map readOption).reverse key := by
  rw [readTag, Keyed.get?_ofList, ← List.filter_reverse, Keyed.get?_filter_ne _ hkey]

theorem has_readTag_iff (text : List Char) (tag : String) {key : String} (hkey : key ≠ "") :
    (readTag text tag).has key = true ↔
      key ∈ (optionParts (optionText text tag)).map fun part => (readOption part).1 := by
  rw [Keyed.has, get?_readTag _ _ hkey, Keyed.isSome_get?_iff, Keyed.keys, List.map_reverse,
    List.mem_reverse, List.map_map]
  rfl

theorem readOption_append_of_mem {part : List Char} (hpart : ':' ∈ part) (more : List Char) :
    (readOption (part ++ more)).1 = (readOption part).1 := by
  obtain ⟨key, value, rfl, hkey⟩ := List.eq_append_cons_of_mem hpart
  rw [List.append_assoc, List.cons_append, readOption_append hkey, readOption_append hkey]

def headParts (column : Column) : List (List Char) :=
  (if column.isPrimaryKey then ["primaryKey".toList] else []) ++
    ["column".toList ++ ':' :: column.name.toList]

theorem headParts_ne_nil (column : Column) : headParts column ≠ [] :=
  List.append_ne_nil_of_right_ne_nil _ (List.cons_ne_nil _ _)

def flagParts (column : Column) : List (List Char) :=
  if column.isNullable || column.isPrimaryKey then [] else ["not null".toList]

def trail (parts : List (List Char)) : List Char :=
  parts.flatMap (';' :: ·)

theorem intercalate_append {parts : List (List Char)} (hne : parts ≠ [])
    (more : List (List Char)) :
    [';'].intercalate (parts ++ more) = [';'].intercalate parts ++ trail more := by
  have hcons : ∀ (part : List Char) (parts : List (List Char)),
      [';'].intercalate (part :: parts) = part ++ trail parts := by
    intro part parts
    induction parts generalizing part with
    | nil => simp [trail]
    | cons next parts ih =>
        rw [List.intercalate_cons_cons, ih, trail, trail, List.flatMap_cons]
        simp
  obtain ⟨part, parts, rfl⟩ := List.exists_cons_of_ne_nil hne
  rw [List.cons_append, hcons, hcons, trail, List.flatMap_append, List.append_assoc]
  rfl

theorem escaped_trail (parts : List (List Char)) :
    escaped (trail parts) = trail (parts.map escaped) := by
  induction parts with
  | nil => rfl
  | cons part parts ih =>
      have hsemicolon : escaped (';' :: part) = ';' :: escaped part :=
        escaped_cons_of_ne (by decide) (by decide) part
      rw [trail, List.flatMap_cons, escaped_append, hsemicolon]
      exact congrArg (';' :: escaped part ++ ·) ih

theorem verbatim_headParts {column : Column}
    (hname : ∀ c ∈ column.name.toList, Text.isWordChar c = true) :
    ∀ part ∈ headParts column, ∀ c ∈ part, isVerbatim c = true := by
  have hprimary : ∀ c ∈ "primaryKey".toList, isVerbatim c = true := List.all_eq_true.mp (by decide)
  have hcolumn : ∀ c ∈ "column".toList ++ [':'], isVerbatim c = true :=
    List.all_eq_true.mp (by decide)
  intro part hpart
  rcases List.mem_append.mp hpart with hpart | hpart
  · split_ifs at hpart
    · exact List.mem_singleton.mp hpart ▸ hprimary
    · cases hpart
  · rw [List.mem_singleton.mp hpart, List.append_cons]
    exact List.forall_mem_append.mpr ⟨hcolumn, fun c hc => isVerbatim_of_isWordChar (hname c hc)⟩

theorem verbatim_flagParts (column : Column) :
    ∀ part ∈ flagParts column, ∀ c ∈ part, isVerbatim c = true := by
  have hflag : ∀ c ∈ "not null".toList, isVerbatim c = true := List.all_eq_true.mp (by decide)
  intro part hpart
  unfold flagParts at hpart
  split_ifs at hpart
  · cases hpart
  · exact List.mem_singleton.mp hpart ▸ hflag

/-- The option for the size as it stands in a tag. -/
def sizeText (size : String) : List Char :=
  if size == "" then [] else ";size:".toList ++ size.toList

/-- The text of a tag: what is in front of the size, the size, and the escaped rest. -/
theorem toList_columnTag (column : Column) :
    (columnTag column).toList = "gorm".toList ++ ':' :: '"' ::
      ([';'].intercalate (headParts column) ++ sizeText (SqlType.size column.type) ++
        escaped (trail (flagParts column ++ (defaultPart? column).toList)) ++ ['"']) := by
  have hparts : (columnOptions column).map String.toList = headParts column ++
      ((if SqlType.size column.type == "" then []
        else ["size:".toList ++ (SqlType.size column.type).toList]) ++
        (flagParts column ++ (defaultPart? column).toList).map escaped) := by
    have hflag : (flagParts column).map escaped = flagParts column :=
      (List.map_congr_left fun part hpart =>
        escaped_of_verbatim (verbatim_flagParts column part hpart)).trans (List.map_id _)
    rw [toList_columnOptions, List.map_append, hflag, columnParts]
    simp only [headParts, flagParts, List.append_assoc]
    rfl
  have htrail : trail (if SqlType.size column.type == "" then []
      else ["size:".toList ++ (SqlType.size column.type).toList])
        = sizeText (SqlType.size column.type) := by
    unfold sizeText
    split_ifs
    · rfl
    · exact List.append_nil _
  have happend : ∀ parts more, trail (parts ++ more) = trail parts ++ trail more := fun _ _ =>
    List.flatMap_append
  have htext : (Text.joinWith ";" (columnOptions column)).toList
      = [';'].intercalate (headParts column) ++ sizeText (SqlType.size column.type) ++
        escaped (trail (flagParts column ++ (defaultPart? column).toList)) := by
    rw [Text.joinWith, String.toList_intercalate, hparts]
    change [';'].intercalate _ = _
    rw [intercalate_append (headParts_ne_nil column), happend, htrail, ← escaped_trail,
      List.append_assoc]
  simp [columnTag, htext]

/-- The option for the size behind other options, as it is read. -/
def sizeTail (size : String) : List Char :=
  if size == "" then [] else ';' :: sizeOption size

def sizeParts (size : String) : List (List Char) :=
  if size == "" then [] else optionParts (sizeOption size)

theorem verbatim_or_semicolon {column : Column}
    (hname : ∀ c ∈ column.name.toList, Text.isWordChar c = true) :
    ∀ c ∈ [';'].intercalate (headParts column), c = ';' ∨ isVerbatim c = true := by
  intro c hc
  refine (mem_of_mem_intercalate hc).imp_right ?_
  rintro ⟨part, hpart, hc⟩
  exact verbatim_headParts hname part hpart c hc

theorem optionText_columnTag {column : Column}
    (hname : ∀ c ∈ column.name.toList, Text.isWordChar c = true)
    (hsize : Sealed (SqlType.size column.type).toList) :
    optionText (columnTag column).toList "gorm"
      = [';'].intercalate (headParts column) ++ sizeTail (SqlType.size column.type) ++
        trail (flagParts column ++ (defaultPart? column).toList) := by
  have hhead : ∀ c ∈ [';'].intercalate (headParts column), c ≠ '\\' ∧ c ≠ '"' := by
    intro c hc
    rcases verbatim_or_semicolon hname c hc with rfl | hverbatim
    · decide
    · exact ⟨ne_of_isVerbatim hverbatim (by decide), ne_of_isVerbatim hverbatim (by decide)⟩
  have hkey : Sealed ";size:".toList := .of_forall (by decide)
  have htail : Sealed (sizeText (SqlType.size column.type)) ∧
      unescape (sizeText (SqlType.size column.type)) = sizeTail (SqlType.size column.type) := by
    unfold sizeText sizeTail
    split_ifs
    · exact ⟨.nil, rfl⟩
    · exact ⟨hkey.append hsize, hkey.unescape_append _⟩
  have hfront := (Sealed.of_forall hhead).append htail.1
  have hsealed := hfront.append
    (sealed_escaped (trail (flagParts column ++ (defaultPart? column).toList)))
  have hgorm : ∀ c ∈ "gorm".toList, Text.isWordChar c = true := by decide
  have htags := tags_quoted (by decide) hgorm (hsealed.quotedText?_quote [])
  have hunescaped : unescape ([';'].intercalate (headParts column))
      = [';'].intercalate (headParts column) := by
    have hsame := unescape_escaped ([';'].intercalate (headParts column))
    rwa [escaped_eq_self hhead] at hsame
  rw [toList_columnTag, optionText, htags]
  change unescape _ = _
  rw [hfront.unescape_append, (Sealed.of_forall hhead).unescape_append, hunescaped, htail.2,
    unescape_escaped]

theorem exists_after_of_not_mem {s : List Char} (hs : '\'' ∉ s) (last? : Option Char) :
    ∃ last?', (OptionPlace.outside last?).after s = .outside last?' := by
  induction s generalizing last? with
  | nil => exact ⟨last?, rfl⟩
  | cons c s ih =>
      obtain ⟨hc, hrest⟩ := not_or.mp (List.mem_cons.not.mp hs)
      obtain ⟨last?', hnext⟩ := next_outside (Ne.symm hc) last?
      rw [OptionPlace.after, List.foldl_cons, hnext]
      exact ih hrest last?'

/-- Behind a text with no open value the parts that follow it are told apart. -/
theorem optionPartsFrom_trail {place : OptionPlace} {s : List Char}
    (h : place.after s ≠ .inside) {parts : List (List Char)}
    (hparts : ∀ part ∈ parts, ∀ c ∈ part, isPlain c = true) {last? : Option (List Char)}
    (hlast : ∀ last ∈ last?, IsPart last) :
    optionPartsFrom place (s ++ trail (parts ++ last?.toList))
      = optionPartsFrom place s ++ (parts ++ last?.toList) := by
  by_cases hne : parts ++ last?.toList = []
  · rw [hne, List.append_nil]
    exact congrArg (optionPartsFrom place) (List.append_nil s)
  · have htrail : trail (parts ++ last?.toList)
        = ';' :: [';'].intercalate (parts ++ last?.toList) := by
      obtain ⟨first, more, hfirst⟩ := List.exists_cons_of_ne_nil hne
      rw [hfirst, ← List.singleton_append, intercalate_append (List.cons_ne_nil _ _),
        List.intercalate_singleton]
      rfl
    rw [htrail, optionPartsFrom_append_semicolon h,
      optionPartsFrom_intercalate_toList hparts hlast hne]

theorem optionParts_head {column : Column}
    (hname : ∀ c ∈ column.name.toList, Text.isWordChar c = true) :
    (OptionPlace.outside none).after ([';'].intercalate (headParts column)) ≠ .inside ∧
      optionParts ([';'].intercalate (headParts column)) = headParts column := by
  have hplain : ∀ part ∈ headParts column, ∀ c ∈ part, isPlain c = true := fun part hpart c hc =>
    isPlain_of_isVerbatim (verbatim_headParts hname part hpart c hc)
  have hquote : '\'' ∉ [';'].intercalate (headParts column) := by
    intro hmem
    rcases verbatim_or_semicolon hname _ hmem with hsemicolon | hverbatim
    · exact absurd hsemicolon (by decide)
    · exact absurd hverbatim (by decide)
  constructor
  · obtain ⟨last?, hafter⟩ := exists_after_of_not_mem hquote none
    rw [hafter]
    exact OptionPlace.noConfusion
  · have hne := headParts_ne_nil column
    rw [← List.append_nil (headParts column)] at hne ⊢
    have hnone : ∀ last ∈ (none : Option (List Char)), IsPart last := fun _ h => nomatch h
    exact optionPartsFrom_intercalate_toList hplain hnone hne none

/-- The name of the option for a size makes what stands in front of it irrelevant. -/
theorem sizeOption_place (size : String) (last? : Option Char) :
    (OptionPlace.outside last?).after (sizeOption size)
        = (OptionPlace.outside none).after (sizeOption size) ∧
      optionPartsFrom (.outside last?) (sizeOption size) = optionParts (sizeOption size) := by
  have htext : sizeOption size = 's' :: ['i', 'z', 'e', ':'] ++ unescape size.toList := rfl
  rw [htext]
  exact ⟨rfl, rfl⟩

/-- The parts of a tag whose size leaves no value open. -/
theorem optionParts_columnTag {column : Column}
    (hname : ∀ c ∈ column.name.toList, Text.isWordChar c = true)
    (hsealed : Sealed (SqlType.size column.type).toList)
    (hclosed : (OptionPlace.outside none).after (sizeOption (SqlType.size column.type)) ≠ .inside) :
    optionParts (optionText (columnTag column).toList "gorm")
      = headParts column ++ sizeParts (SqlType.size column.type) ++
        (flagParts column ++ (defaultPart? column).toList) := by
  have hflags : ∀ part ∈ flagParts column, ∀ c ∈ part, isPlain c = true := fun part hpart c hc =>
    isPlain_of_isVerbatim (verbatim_flagParts column part hpart c hc)
  obtain ⟨hafter, hhead⟩ := optionParts_head hname
  rw [optionText_columnTag hname hsealed]
  by_cases hsize : (SqlType.size column.type == "") = true
  · rw [sizeTail, sizeParts, if_pos hsize, if_pos hsize, List.append_nil, List.append_nil,
      optionParts, optionPartsFrom_trail hafter hflags isPart_default]
    exact congrArg (· ++ _) hhead
  · rw [sizeTail, sizeParts, if_neg hsize, if_neg hsize, List.append_assoc, List.cons_append,
      optionParts, optionPartsFrom_append_semicolon hafter, List.append_assoc]
    refine congrArg₂ (· ++ ·) hhead ?_
    obtain ⟨hafter, hparts⟩ := sizeOption_place (SqlType.size column.type) (some ';')
    rw [← hafter] at hclosed
    rw [← hparts]
    exact optionPartsFrom_trail hclosed hflags isPart_default

theorem map_readOption_ends {column : Column}
    (hname : ∀ c ∈ column.name.toList, Text.isWordChar c = true) :
    (headParts column ++ (flagParts column ++ (defaultPart? column).toList)).map readOption
      = columnEntries { column with type := "" } := by
  have hkey : readOption "primaryKey".toList = ("primarykey", "") := by decide
  have hrequired : readOption "not null".toList = ("not null", "") := by decide
  have hsize : (SqlType.size "" == "") = true := by decide
  simp only [headParts, flagParts, defaultPart?, columnEntries, List.map_append,
    apply_ite (List.map readOption), List.map_nil, List.map_singleton, readOption_name hname, hkey,
    hrequired, hsize, if_true, List.append_nil, List.append_assoc]
  cases column.defaultValue.filter (· != "") with
  | none => rfl
  | some value =>
      rw [Option.map_some, Option.toList_some, List.map_singleton, readOption_default]
      rfl

/-- Parts between those of a column do not matter, if they have other names. -/
theorem describes_of_parts {column : Column} (hcolumn : Taggable column) {text : List Char}
    {tag : String} {middle : List (List Char)}
    (hmiddle : ∀ part ∈ middle, (readOption part).1 ∉ columnKeys)
    (hparts : optionParts (optionText text tag) = headParts column ++ middle ++
      (flagParts column ++ (defaultPart? column).toList)) :
    Describes (readTag text tag) column := by
  have hget : ∀ key ∈ columnKeys, (readTag text tag).get? key
      = (Keyed.ofList (columnEntries { column with type := "" })).get? key := by
    intro key hkey
    have hne : key ≠ "" := by
      rintro rfl
      exact absurd hkey (by decide)
    have hnone : Keyed.get? (middle.map readOption).reverse key = none := by
      refine Keyed.get?_eq_none fun hmem => ?_
      rw [Keyed.keys, List.map_reverse, List.mem_reverse, List.map_map] at hmem
      obtain ⟨part, hpart, rfl⟩ := List.mem_map.mp hmem
      exact hmiddle part hpart hkey
    rw [get?_readTag _ _ hne, hparts, Keyed.get?_ofList, ← map_readOption_ends hcolumn.name_word]
    simp only [List.map_append, List.reverse_append, Keyed.get?_append, hnone, Option.none_or]
  obtain ⟨hname, hprimary, -, hrequired, hdefault⟩ :=
    get?_columnEntries { column with type := "" }
  have hvalue : (column.defaultValue.filter (· != "")).map readValue = column.defaultValue := by
    cases hdefault : column.defaultValue with
    | none => rfl
    | some value =>
        obtain ⟨hne, htrim⟩ := hcolumn.default_trim value hdefault
        rw [Option.filter_some, if_pos (bne_iff_ne.mpr hne), Option.map_some,
          readValue_of_trim htrim]
  exact {
    name := (hget _ (by decide)).trans hname
    key := (congrArg Option.isSome (hget _ (by decide))).trans hprimary
    required := (congrArg Option.isSome (hget _ (by decide))).trans hrequired
    default := ((hget _ (by decide)).trans hdefault).trans hvalue }

theorem describes_of_harmless {column : Column} (hcolumn : Taggable column)
    (hsize : Harmless (SqlType.size column.type)) :
    Describes (readTag (columnTag column).toList "gorm") column := by
  refine describes_of_parts hcolumn ?_
    (optionParts_columnTag hcolumn.name_word hsize.sealed hsize.closed)
  intro part hpart
  unfold sizeParts at hpart
  split_ifs at hpart
  · cases hpart
  · exact hsize.foreign part hpart

/-! ### Sizes that do harm

Where a size is not harmless, the tag of a column without a key and a default is misread already.
The size ends this tag, leaves a value open behind itself, or gives an option that such a column
does not have.
-/

section Harm

variable {type : String}

def plainColumn (type name : String) (isNullable : Bool) : Column :=
  { name, type, isNullable }

theorem taggable_plainColumn {name : String} (hname : ∀ c ∈ name.toList, Text.isWordChar c = true)
    (isNullable : Bool) : Taggable (plainColumn type name isNullable) where
  name_word := hname
  default_trim := fun _ h => nomatch h

/-- Whether the tags of all columns of a type are read back. -/
def TagsReread (type : String) : Prop :=
  ∀ column : Column, column.type = type → Taggable column →
    Describes (readTag (columnTag column).toList "gorm") column

theorem TagsReread.plain (h : TagsReread type) {name : String}
    (hname : ∀ c ∈ name.toList, Text.isWordChar c = true) (isNullable : Bool) :
    Describes (readTag (columnTag (plainColumn type name isNullable)).toList "gorm")
      (plainColumn type name isNullable) :=
  h _ rfl (taggable_plainColumn hname isNullable)

theorem TagsReread.exists_ne (h : TagsReread type) (isNullable : Bool) (value : Option String) :
    ∃ name : String, (∀ c ∈ name.toList, Text.isWordChar c = true) ∧
      (readTag (columnTag (plainColumn type name isNullable)).toList "gorm").get? "column"
        ≠ value := by
  by_contra hnone
  simp only [not_exists, not_and, not_not] at hnone
  have hempty : ∀ c ∈ "".toList, Text.isWordChar c = true := by decide
  have hletter : ∀ c ∈ "a".toList, Text.isWordChar c = true := by decide
  have hsame := (hnone "" hempty).trans (hnone "a" hletter).symm
  rw [(h.plain hempty isNullable).name, (h.plain hletter isNullable).name] at hsame
  have hne : "" ≠ "a" := by decide
  exact hne (Option.some.inj hsame)

/-- What is in front of the size in the tag of a plain column. -/
def plainHead (name : String) : List Char :=
  "column".toList ++ ':' :: (name.toList ++ ";size:".toList)

theorem plainHead_eq (name : String) :
    plainHead name = "column".toList ++ ':' :: (name.toList ++ ";size:".toList) := rfl

def plainTail (isNullable : Bool) : List Char :=
  if isNullable then [] else ";not null".toList

theorem toList_columnTag_plain (hsize : SqlType.size type ≠ "") (name : String)
    (isNullable : Bool) :
    (columnTag (plainColumn type name isNullable)).toList = "gorm".toList ++ ':' :: '"' ::
      (plainHead name ++ (SqlType.size type).toList ++ plainTail isNullable ++ ['"']) := by
  have htext : sizeText (SqlType.size type) = ";size:".toList ++ (SqlType.size type).toList :=
    if_neg (by simpa using hsize)
  have htail : escaped (trail (flagParts (plainColumn type name isNullable) ++
      (defaultPart? (plainColumn type name isNullable)).toList)) = plainTail isNullable := by
    cases isNullable <;> rfl
  have hhead : [';'].intercalate (headParts (plainColumn type name isNullable))
      = "column".toList ++ ':' :: name.toList := List.intercalate_singleton
  rw [toList_columnTag, htail, hhead]
  change "gorm".toList ++ ':' :: '"' :: (_ ++ sizeText (SqlType.size type) ++ _ ++ _) = _
  rw [htext, plainHead_eq]
  simp only [List.append_assoc, List.cons_append]

theorem sealed_plainHead {name : String} (hname : ∀ c ∈ name.toList, Text.isWordChar c = true) :
    Sealed (plainHead name) := by
  have hcolumn : Sealed ("column".toList ++ [':']) := .of_forall (by decide)
  have hword : Sealed name.toList := .of_forall fun c hc =>
    ⟨ne_of_isVerbatim (isVerbatim_of_isWordChar (hname c hc)) (by decide),
      ne_of_isVerbatim (isVerbatim_of_isWordChar (hname c hc)) (by decide)⟩
  have hkey : Sealed ";size:".toList := .of_forall (by decide)
  rw [plainHead_eq, List.append_cons]
  exact hcolumn.append (hword.append hkey)

theorem plainHead_append (name : String) (rest : List Char) : plainHead name ++ rest
    = "column".toList ++ ':' :: (name.toList ++ ';' :: ("size:".toList ++ rest)) := by
  have hkey : ";size:".toList = ';' :: "size:".toList := rfl
  rw [plainHead_eq, hkey]
  simp only [List.append_assoc, List.cons_append]

/-- No tag is found in front of the size. -/
theorem tags_plainHead {name : String} (hname : ∀ c ∈ name.toList, Text.isWordChar c = true)
    (rest : List Char) : tags (plainHead name ++ rest) = tags ("size:".toList ++ rest) := by
  have hcolumn : ∀ c ∈ "column".toList, Text.isWordChar c = true := List.all_eq_true.mp (by decide)
  have hcolon : Text.isWordChar ':' = false := by decide
  have hsemicolon : Text.isWordChar ';' = false := by decide
  have hquote : ((name.toList ++ ';' :: ("size:".toList ++ rest)).head? == some '"') = false := by
    cases hcs : name.toList with
    | nil => rfl
    | cons c cs =>
        have hc := hname c (hcs ▸ List.mem_cons_self)
        rw [List.cons_append, List.head?_cons, beq_eq_false_iff_ne]
        rintro hsame
        rw [Option.some.inj hsame] at hc
        exact absurd hc (by decide)
  rw [plainHead_append, tags, tagsFrom_word hcolumn, tagsFrom, hcolon, hquote, Bool.and_false]
  simp only [Bool.false_eq_true, if_false]
  rw [tagsFrom_word hname, tagsFrom, hsemicolon]
  rfl

/-- What is behind the name in the tag of a column that may be absent. -/
def sizeEnd (type : String) : List Char :=
  "size:".toList ++ ((SqlType.size type).toList ++ ['"'])

theorem toList_columnTag_nullable (hsize : SqlType.size type ≠ "") (name : String) :
    (columnTag (plainColumn type name true)).toList
      = "gorm".toList ++ ':' :: '"' ::
        (plainHead name ++ ((SqlType.size type).toList ++ ['"'])) := by
  have htail : plainTail true = [] := rfl
  rw [toList_columnTag_plain hsize, htail, List.append_nil, List.append_assoc]

/-- Behind a quote that is never closed, tags are found as in the text itself. -/
theorem tags_columnTag_of_open (hsize : SqlType.size type ≠ "")
    (hopen : quotedText? ((SqlType.size type).toList ++ ['"']) = none) {name : String}
    (hname : ∀ c ∈ name.toList, Text.isWordChar c = true) :
    tags (columnTag (plainColumn type name true)).toList = tags (sizeEnd type) := by
  have hnone : quotedText? (plainHead name ++ ((SqlType.size type).toList ++ ['"'])) = none := by
    rw [(sealed_plainHead hname).quotedText?_append, hopen, Option.map_none]
  rw [toList_columnTag_nullable hsize, tags_colon (by decide) (List.all_eq_true.mp (by decide)),
    hnone, tags_plainHead hname, sizeEnd]

/-- The first option of a text that is no tag ends at the name of the column. -/
theorem get?_column_whole (hsize : SqlType.size type ≠ "") {name : String}
    (hname : ∀ c ∈ name.toList, Text.isWordChar c = true) :
    Keyed.get? ((optionParts (columnTag (plainColumn type name true)).toList).map
        readOption).reverse "column"
      = Keyed.get? ((optionPartsFrom (.outside (some ';')) (sizeEnd type)).map
        readOption).reverse "column" := by
  let first := "gorm".toList ++ ':' :: '"' :: ("column".toList ++ ':' :: name.toList)
  have hplain : ∀ c ∈ first, isPlain c = true := by
    have hstart : ∀ c ∈ "gorm".toList ++ ':' :: '"' :: ("column".toList ++ [':']),
        isPlain c = true := List.all_eq_true.mp (by decide)
    have hfirst : first = "gorm".toList ++ ':' :: '"' :: ("column".toList ++ [':']) ++
        name.toList := by simp [first]
    rw [hfirst]
    exact List.forall_mem_append.mpr ⟨hstart, fun c hc =>
      isPlain_of_isVerbatim (isVerbatim_of_isWordChar (hname c hc))⟩
  have hwhole : (columnTag (plainColumn type name true)).toList = first ++ ';' :: sizeEnd type := by
    rw [toList_columnTag_nullable hsize, plainHead_append]
    simp only [first, sizeEnd, List.append_assoc, List.cons_append]
  have hkey : (readOption first).1 = "gorm" := by
    rw [readOption_append (by decide)]
    change (readOption "gorm".toList).1 = "gorm"
    decide
  have hfirst : Keyed.get? [readOption first] "column" = none := by
    refine Keyed.get?_eq_none ?_
    rw [Keyed.keys, List.map_singleton, hkey]
    decide
  have hparts : optionParts (first ++ ';' :: sizeEnd type)
      = first :: optionPartsFrom (.outside (some ';')) (sizeEnd type) :=
    optionPartsFrom_append hplain none (sizeEnd type)
  rw [hwhole, hparts, List.map_cons, List.reverse_cons, Keyed.get?_append, hfirst, Option.or_none]

/-- A size that takes the end from its tag: the name of the column is not read at all. -/
theorem not_tagsReread_of_open (hsize : SqlType.size type ≠ "")
    (hopen : quotedText? ((SqlType.size type).toList ++ ['"']) = none) : ¬ TagsReread type := by
  intro hall
  cases hrest : tags (sizeEnd type) with
  | cons tag more =>
      -- the options are those of some tag behind the name
      obtain ⟨name, hname, hne⟩ := hall.exists_ne true (Keyed.get? ((optionParts
        (((((tag :: more).reverse.lookup "gorm".toList).map unescape).getD []))).map
          readOption).reverse "column")
      refine hne ?_
      rw [get?_readTag _ _ (by decide), optionText, tags_columnTag_of_open hsize hopen hname, hrest]
  | nil =>
      -- the options are the whole text
      obtain ⟨name, hname, hne⟩ := hall.exists_ne true (Keyed.get?
        ((optionPartsFrom (.outside (some ';')) (sizeEnd type)).map readOption).reverse "column")
      refine hne ?_
      rw [get?_readTag _ _ (by decide), optionText, tags_columnTag_of_open hsize hopen hname, hrest]
      exact get?_column_whole hsize hname

/-- A size with a quote that ends its tag: what is behind the quote is not read. -/
theorem not_tagsReread_of_quote (hsize : SqlType.size type ≠ "") {front behind : List Char}
    (hfront : Sealed front) (htype : (SqlType.size type).toList = front ++ '"' :: behind) :
    ¬ TagsReread type := by
  intro hall
  let rest (isNullable : Bool) := behind ++ plainTail isNullable ++ ['"']
  have hoptions : ∀ (name : String) (isNullable : Bool),
      (∀ c ∈ name.toList, Text.isWordChar c = true) →
      optionText (columnTag (plainColumn type name isNullable)).toList "gorm"
        = ((((tags (rest isNullable)).reverse.lookup "gorm".toList).or
          (some (plainHead name ++ front))).map unescape).getD [] := by
    intro name isNullable hname
    have htext : plainHead name ++ (SqlType.size type).toList ++ plainTail isNullable ++ ['"']
        = (plainHead name ++ front) ++ '"' :: rest isNullable := by
      rw [htype]
      simp only [rest, List.append_assoc, List.cons_append]
    have hgorm : ∀ c ∈ "gorm".toList, Text.isWordChar c = true := by decide
    have htags := tags_quoted (by decide) hgorm
      (((sealed_plainHead hname).append hfront).quotedText?_quote (rest isNullable))
    rw [toList_columnTag_plain hsize, htext, optionText, htags]
    change (((_ :: tags (rest isNullable)).reverse.lookup _).map unescape).getD [] = _
    rw [List.reverse_cons, List.lookup_append, List.lookup_cons_self]
  have hnone : ∀ isNullable, (tags (rest isNullable)).reverse.lookup "gorm".toList = none := by
    intro isNullable
    cases hfound : (tags (rest isNullable)).reverse.lookup "gorm".toList with
    | none => rfl
    | some text =>
        obtain ⟨name, hname, hne⟩ := hall.exists_ne isNullable
          (Keyed.get? ((optionParts (unescape text)).map readOption).reverse "column")
        refine absurd ?_ hne
        rw [get?_readTag _ _ (by decide), hoptions name isNullable hname, hfound]
        rfl
  have hname : ∀ c ∈ "".toList, Text.isWordChar c = true := by decide
  have hsame : (readTag (columnTag (plainColumn type "" true)).toList "gorm").get? "not null"
      = (readTag (columnTag (plainColumn type "" false)).toList "gorm").get? "not null" := by
    rw [get?_readTag _ _ (by decide), get?_readTag _ _ (by decide), hoptions "" true hname,
      hoptions "" false hname, hnone, hnone]
  have hrequired := (hall.plain hname true).required
  rw [Keyed.has, hsame] at hrequired
  exact Bool.false_ne_true (hrequired.symm.trans (hall.plain hname false).required)

/-- A size that leaves a value open: the option behind it is not read. -/
theorem not_tagsReread_of_inside (hsize : SqlType.size type ≠ "")
    (hsealed : Sealed (SqlType.size type).toList)
    (hinside : (OptionPlace.outside none).after (sizeOption (SqlType.size type)) = .inside) :
    ¬ TagsReread type := by
  intro hall
  have hname : ∀ c ∈ "".toList, Text.isWordChar c = true := by decide
  rw [← (sizeOption_place _ (some ';')).1] at hinside
  obtain ⟨parts, last, hparts, happend, hcolon⟩ :=
    exists_optionPartsFrom_append hinside (t := plainTail false) (by decide)
  have hlast : ':' ∈ last := by
    refine hcolon.resolve_right ?_
    rintro ⟨-, hplace | hplace | hplace⟩
    · cases hplace
    · cases hplace
    · exact absurd hplace (by decide)
  have hshape : ∀ isNullable,
      optionParts (optionText (columnTag (plainColumn type "" isNullable)).toList "gorm")
        = headParts (plainColumn type "" true) ++ optionPartsFrom (.outside (some ';'))
          (sizeOption (SqlType.size type) ++ plainTail isNullable) := by
    intro isNullable
    have htail : trail (flagParts (plainColumn type "" isNullable) ++
        (defaultPart? (plainColumn type "" isNullable)).toList) = plainTail isNullable := by
      cases isNullable <;> rfl
    have hsizeTail : sizeTail (SqlType.size type) = ';' :: sizeOption (SqlType.size type) :=
      if_neg (by simpa using hsize)
    obtain ⟨hafter, hhead⟩ := @optionParts_head (plainColumn type "" isNullable) hname
    have htext := @optionText_columnTag (plainColumn type "" isNullable) hname hsealed
    rw [htext, htail]
    change optionParts (_ ++ sizeTail (SqlType.size type) ++ _) = _
    rw [hsizeTail, List.append_assoc, List.cons_append, optionParts,
      optionPartsFrom_append_semicolon hafter]
    exact congrArg (· ++ _) hhead
  -- the parts of both tags have the same names
  have hsame : (readTag (columnTag (plainColumn type "" false)).toList "gorm").has "not null" = true
      ↔ (readTag (columnTag (plainColumn type "" true)).toList "gorm").has "not null" = true := by
    have hkey := readOption_append_of_mem hlast (plainTail false)
    have htail : sizeOption (SqlType.size type) ++ plainTail true
        = sizeOption (SqlType.size type) := List.append_nil _
    rw [has_readTag_iff _ _ (by decide), has_readTag_iff _ _ (by decide), hshape, hshape, happend,
      htail, hparts]
    simp only [List.map_append, List.map_singleton, hkey]
  have hrequired := hsame.mp (hall.plain hname false).required
  exact Bool.false_ne_true ((hall.plain hname true).required.symm.trans hrequired)

/-- A size with an option that is read for one of the column. -/
theorem not_tagsReread_of_key (hsize : SqlType.size type ≠ "")
    (hsealed : Sealed (SqlType.size type).toList)
    (hclosed : (OptionPlace.outside none).after (sizeOption (SqlType.size type)) ≠ .inside)
    {part : List Char} (hpart : part ∈ optionParts (sizeOption (SqlType.size type)))
    (hkey : (readOption part).1 ∈ columnKeys) : ¬ TagsReread type := by
  intro hall
  have hparts : ∀ name : String, (∀ c ∈ name.toList, Text.isWordChar c = true) →
      optionParts (optionText (columnTag (plainColumn type name true)).toList "gorm")
        = headParts (plainColumn type name true) ++
          optionParts (sizeOption (SqlType.size type)) := by
    intro name hname
    have hsizeParts : sizeParts (SqlType.size type)
        = optionParts (sizeOption (SqlType.size type)) := if_neg (by simpa using hsize)
    rw [← hsizeParts]
    exact (@optionParts_columnTag (plainColumn type name true) hname hsealed
      hclosed).trans (List.append_nil _)
  have hname : ∀ c ∈ "".toList, Text.isWordChar c = true := by decide
  have hhas : (readOption part).1 ≠ "" →
      (readTag (columnTag (plainColumn type "" true)).toList "gorm").has (readOption part).1
        = true := by
    intro hne
    rw [has_readTag_iff _ _ hne, hparts "" hname, List.map_append]
    exact List.mem_append_right _ (List.mem_map_of_mem hpart)
  have hplain := hall.plain hname true
  rcases List.mem_cons.mp hkey with hprimary | hkey
  · rw [hprimary] at hhas
    exact Bool.false_ne_true (hplain.key.symm.trans (hhas (by decide)))
  rcases List.mem_cons.mp hkey with hcolumn | hkey
  · -- the name is the one that the size gives
    have hfound : "column" ∈
        Keyed.keys ((optionParts (sizeOption (SqlType.size type))).map readOption).reverse := by
      rw [Keyed.keys, List.map_reverse, List.mem_reverse, List.map_map, ← hcolumn]
      exact List.mem_map_of_mem hpart
    obtain ⟨value, hvalue⟩ := Option.isSome_iff_exists.mp (Keyed.isSome_get?_iff.mpr hfound)
    obtain ⟨name, hname, hne⟩ := hall.exists_ne true (some value)
    refine hne ?_
    rw [get?_readTag _ _ (by decide), hparts name hname, List.map_append, List.reverse_append,
      Keyed.get?_append, hvalue, Option.some_or]
  rcases List.mem_cons.mp hkey with hrequired | hkey
  · rw [hrequired] at hhas
    exact Bool.false_ne_true (hplain.required.symm.trans (hhas (by decide)))
  · rw [List.mem_singleton.mp hkey, Keyed.has, hplain.default] at hhas
    exact Bool.false_ne_true (hhas (by decide))

end Harm

theorem after_sizeOption_of_not_mem {size : String} (h : '\'' ∉ unescape size.toList) :
    (OptionPlace.outside none).after (sizeOption size) ≠ .inside := by
  have hquote : '\'' ∉ sizeOption size := by
    intro hmem
    rcases List.mem_append.mp hmem with hkey | hmem
    · exact absurd hkey (by decide)
    · exact h hmem
  obtain ⟨last?, hafter⟩ := exists_after_of_not_mem hquote none
  rw [hafter]
  exact OptionPlace.noConfusion

/-- A size without quotes, backslashes and semicolons does no harm. -/
theorem harmless_of_plain {size : String}
    (h : ∀ c ∈ size.toList, isPlain c = true ∧ c ≠ '\\' ∧ c ≠ '"') : Harmless size := by
  have hsealed : ∀ c ∈ size.toList, c ≠ '\\' ∧ c ≠ '"' := fun c hc => (h c hc).2
  have hsame : unescape size.toList = size.toList := by
    have hback := unescape_escaped size.toList
    rwa [escaped_eq_self hsealed] at hback
  have hplain : ∀ mark ∈ [';', '\''], mark ∉ size.toList := by
    intro mark hmark hmem
    obtain ⟨hsemicolon, hquote⟩ := isPlain_iff.mp (h mark hmem).1
    simp_all
  refine ⟨.of_forall hsealed, after_sizeOption_of_not_mem ?_, ?_⟩
  · rw [hsame]
    exact hplain _ (by decide)
  · have hsize : ';' ∉ sizeOption size := by
      rw [sizeOption_eq, hsame, List.mem_append]
      rintro (hkey | hmem)
      · exact absurd hkey (by decide)
      · exact hplain _ (by decide) hmem
    have hkey : (readOption (sizeOption size)).1 = "size" := by
      have hname : sizeOption size = "size".toList ++ ':' :: unescape size.toList := rfl
      rw [hname, readOption_append (by decide)]
      change (readOption "size".toList).1 = "size"
      decide
    intro part hpart
    rw [optionParts, optionPartsFrom_of_not_mem hsize] at hpart
    rw [List.mem_singleton.mp hpart, hkey]
    decide

/-- The tags of all columns of a type are read back exactly if its size does no harm. -/
theorem tagsReread_iff (type : String) : TagsReread type ↔ Harmless (SqlType.size type) := by
  constructor
  · intro hall
    by_cases hsize : SqlType.size type = ""
    · rw [hsize]
      exact harmless_of_plain (by decide)
    · have hsealed : Sealed (SqlType.size type).toList := by
        rcases sealed_or (SqlType.size type).toList with
          hsealed | ⟨front, behind, hfront, htype⟩ | hopen
        · exact hsealed
        · exact absurd hall (not_tagsReread_of_quote hsize hfront htype)
        · exact absurd hall (not_tagsReread_of_open hsize hopen)
      have hclosed : (OptionPlace.outside none).after (sizeOption (SqlType.size type)) ≠ .inside :=
        fun hinside => not_tagsReread_of_inside hsize hsealed hinside hall
      exact ⟨hsealed, hclosed, fun part hpart hkey =>
        not_tagsReread_of_key hsize hsealed hclosed hpart hkey hall⟩
  · intro hsize column htype hcolumn
    rw [← htype] at hsize
    exact describes_of_harmless hcolumn hsize

/-- A column with values in double quotes. -/
def stateColumn : Column where
  name := "state"
  type := "ENUM(\"new\",\"old\")"
  isNullable := false

theorem tagsReread_stateColumn :
    Ddl.parse "CREATE TABLE t (state ENUM(\"new\",\"old\") NOT NULL)" (some "sqlite")
        = .ok [{ name := "t", columns := [stateColumn] }] ∧
      Taggable stateColumn ∧
      ¬ Describes (readTag (columnTag stateColumn).toList "gorm") stateColumn := by
  refine ⟨by decide +kernel, ⟨by decide, by decide⟩, fun h => ?_⟩
  exact absurd h.required (by decide +kernel)

end RelSchema.Models
