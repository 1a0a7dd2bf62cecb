import RelSchema.Proofs.Models.Calm
import RelSchema.Proofs.Models.Header
import RelSchema.Proofs.Text.Cut

/-!
# Sources in standard layout

In the standard layout a structure has its header on one line and each of its fields on a line of
its own, with an annotation between grave accents. A source of structures in this layout declares
these structures in their order, whatever the annotations say.
-/

namespace RelSchema

namespace Models

theorem isBlank_of_isTypeChar {c : Char} (hc : isTypeChar c = true) : Text.isBlank c = false := by
  simp only [isTypeChar, Bool.or_eq_true, beq_iff_eq] at hc
  rcases hc with (((hword | rfl) | rfl) | rfl) | rfl
  · exact Text.isBlank_of_isWordChar hword
  all_goals decide

theorem isTypeChar_of_isWordChar {c : Char} (hc : Text.isWordChar c = true) :
    isTypeChar c = true := by
  simp [isTypeChar, hc]

/-- The marks that matter outside of quotes. -/
def marks : List Char :=
  ['/', '\x7b', '\x7d']

theorem not_mem_of_isTypeChar {c : Char} (hc : isTypeChar c = true) : c ∉ marks ∧ c ∉ quotes := by
  have hmarks : (marks ++ quotes).any isTypeChar = false := by decide
  have hnot : c ∉ marks ++ quotes := fun hmem => List.any_eq_false.mp hmarks c hmem hc
  simpa using hnot

/-- Whether a character ends no annotation and no line, and opens no brace. -/
def isTagChar (c : Char) : Bool :=
  c != '\x60' && c != '\x7b' && !Text.isLineBreak c

theorem isTagChar_iff {c : Char} :
    isTagChar c = true ↔ c ≠ '\x60' ∧ c ≠ '\x7b' ∧ Text.isLineBreak c = false := by
  simp [isTagChar, and_assoc]

/-- The text of a field: its name, its type and its annotation. -/
structure FieldText where
  name : List Char
  type : List Char
  tags : List Char

namespace FieldText

def line (field : FieldText) : List Char :=
  '\t' :: field.name ++ ' ' :: field.type ++ ' ' :: '\x60' :: field.tags ++ ['\x60']

/-- Whether a field can be read off its line, and hides in it whatever could end a structure. -/
structure Legible (field : FieldText) : Prop where
  name_ne : field.name ≠ []
  name_word : ∀ c ∈ field.name, Text.isWordChar c = true
  type_ne : field.type ≠ []
  type_char : ∀ c ∈ field.type, isTypeChar c = true
  tags_char : ∀ c ∈ field.tags, isTagChar c = true

def field (tag : String) (text : FieldText) : Field where
  name := .ofList text.name
  type := .ofList text.type
  options := readTag text.tags tag

variable {text : FieldText}

namespace Legible

theorem readField?_line (h : text.Legible) (tag : String) :
    readField? tag text.line = some (text.field tag) := by
  obtain ⟨first, name, hname⟩ := List.exists_cons_of_ne_nil h.name_ne
  have hfirst : Text.isBlank first = false :=
    Text.isBlank_of_isWordChar (h.name_word first (hname ▸ List.mem_cons_self))
  have htrim : Text.trim text.line
      = text.name ++ ' ' :: (text.type ++ ' ' :: '\x60' :: (text.tags ++ ['\x60'])) := by
    have hline : text.line = ['\t'] ++ (text.name ++ ' ' ::
        (text.type ++ ' ' :: '\x60' :: (text.tags ++ ['\x60']))) ++ [] := by
      simp [line]
    rw [hline]
    apply Text.trim_append_append
    · exact List.forall_mem_singleton.mpr (by decide)
    · exact List.forall_mem_nil _
    · simpa [hname] using hfirst
    · intro c hc
      have hlast : c = '\x60' := by simpa [List.getLast?_cons, List.getLast?_append] using hc.symm
      rw [hlast]
      decide
  have htype : ∀ c ∈ (text.type ++ ' ' :: '\x60' :: (text.tags ++ ['\x60'])).head?,
      Text.isBlank c = false := by
    obtain ⟨d, type, htype⟩ := List.exists_cons_of_ne_nil h.type_ne
    simpa [htype] using isBlank_of_isTypeChar (h.type_char d (htype ▸ List.mem_cons_self))
  have hspace : ∀ c ∈ (' ' :: '\x60' :: (text.tags ++ ['\x60'])).head?, isTypeChar c = false := by
    simp only [List.head?_cons, Option.mem_some_iff, forall_eq']
    decide
  have htags : readTagText? (Text.trimLeft (' ' :: '\x60' :: (text.tags ++ ['\x60'])))
      = some text.tags := by
    have htrim : Text.trimLeft (' ' :: '\x60' :: (text.tags ++ ['\x60']))
        = '\x60' :: (text.tags ++ ['\x60']) := rfl
    have haccent : '\x60' ∉ text.tags := fun hmem =>
      (isTagChar_iff.mp (h.tags_char _ hmem)).1 rfl
    rw [htrim, readTagText?, Text.cutAt?_append haccent]
    rfl
  unfold readField?
  rw [htrim, takeWord?_append h.name_ne h.name_word (by
    simp only [List.head?_cons, Option.mem_some_iff, forall_eq']
    decide)]
  simp only [Option.bind_eq_bind, Option.bind_some, dropBlanks?_space htype,
    Text.takeWhile_append_eq h.type_char hspace, Text.dropWhile_append_eq h.type_char hspace, htags]
  rw [if_neg (by simpa using h.type_ne)]
  rfl

theorem type_char_or_blank (h : text.Legible) {c : Char}
    (hc : c ∈ '\t' :: text.name ++ ' ' :: text.type ++ [' ']) :
    isTypeChar c = true ∨ c = '\t' ∨ c = ' ' := by
  simp only [List.mem_append, List.mem_cons, List.not_mem_nil, or_false] at hc
  rcases hc with ((rfl | hname) | rfl | htype) | rfl
  · exact Or.inr (Or.inl rfl)
  · exact Or.inl (isTypeChar_of_isWordChar (h.name_word c hname))
  · exact Or.inr (Or.inr rfl)
  · exact Or.inl (h.type_char c htype)
  · exact Or.inr (Or.inr rfl)

theorem line_eq (text : FieldText) : text.line
    = ('\t' :: text.name ++ ' ' :: text.type ++ [' ']) ++ ('\x60' :: text.tags ++ ['\x60']) := by
  simp [line]

theorem calm_line (h : text.Legible) : Calm marks text.line := by
  rw [line_eq]
  refine Calm.append (Calm.of_all fun c hc => ?_) (Calm.enclosed (by decide) fun hmem => ?_)
  · rcases h.type_char_or_blank hc with htype | rfl | rfl
    · exact not_mem_of_isTypeChar htype
    · decide
    · decide
  · exact (isTagChar_iff.mp (h.tags_char _ hmem)).1 rfl

/-- The line of a field neither opens a brace nor ends early. -/
theorem of_mem_line (h : text.Legible) {c : Char} (hc : c ∈ text.line) :
    c ≠ '\x7b' ∧ Text.isLineBreak c = false := by
  rw [line_eq, List.mem_append] at hc
  rcases hc with hfront | htags
  · rcases h.type_char_or_blank hfront with htype | rfl | rfl
    · refine ⟨fun hbrace => (not_mem_of_isTypeChar htype).1 (hbrace ▸ by decide), ?_⟩
      by_contra hbreak
      have hblank := Text.isBlank_of_isLineBreak (by simpa using hbreak)
      rw [isBlank_of_isTypeChar htype] at hblank
      cases hblank
    · decide
    · decide
  · simp only [List.mem_append, List.mem_cons, List.not_mem_nil, or_false] at htags
    rcases htags with (rfl | htags) | rfl
    · decide
    · exact (isTagChar_iff.mp (h.tags_char c htags)).2
    · decide

end Legible

end FieldText

/-- The text of a structure: its name and its fields. -/
structure StructText where
  name : List Char
  fields : List FieldText

namespace StructText

/-- What stands between the braces. -/
def body (text : StructText) : List Char :=
  '\n' :: text.fields.flatMap fun field => field.line ++ ['\n']

def toList (text : StructText) : List Char :=
  header text.name ++ '\x7b' :: (text.body ++ ['\x7d', '\n'])

structure Legible (text : StructText) : Prop where
  name_ne : text.name ≠ []
  name_word : ∀ c ∈ text.name, Text.isWordChar c = true
  fields_ne : text.fields ≠ []
  fields : ∀ field ∈ text.fields, field.Legible

def declaration (tag : String) (text : StructText) : Declaration where
  name := .ofList text.name
  columns := (text.fields.map (·.field tag)).filter (!isRelationType ·.type)
  relations := (text.fields.map (·.field tag)).filter (isRelationType ·.type)

variable {text : StructText}

theorem lines_body (h : ∀ field ∈ text.fields, field.Legible) :
    Text.lines text.body = [] :: text.fields.map (·.line) := by
  have hfirst := Text.lines_append_break (List.forall_mem_nil fun c => Text.isLineBreak c = false)
    (text.fields.flatMap fun field => field.line ++ ['\n'])
  rw [body, ← List.nil_append ('\n' :: _), hfirst]
  congr 1
  generalize text.fields = fields at h
  induction fields with
  | nil => rfl
  | cons field fields ih =>
      obtain ⟨hfield, hfields⟩ := List.forall_mem_cons.mp h
      rw [List.flatMap_cons, List.append_assoc, List.singleton_append,
        Text.lines_append_break fun c hc => (hfield.of_mem_line hc).2, ih hfields, List.map_cons]

namespace Legible

theorem calm_body (h : text.Legible) : Calm marks text.body :=
  .code (by decide) (by decide) <| .flatMap fun field hfield =>
    (h.fields field hfield).calm_line.append (.code (by decide) (by decide) .nil)

theorem brace_not_mem_body (h : text.Legible) : '\x7b' ∉ text.body := by
  intro hmem
  rcases List.mem_cons.mp hmem with hbreak | hmem
  · exact absurd hbreak (by decide)
  · obtain ⟨field, hfield, hmem⟩ := List.mem_flatMap.mp hmem
    rcases List.mem_append.mp hmem with hline | hbreak
    · exact ((h.fields field hfield).of_mem_line hline).1 rfl
    · exact absurd hbreak (by decide)

theorem trim_body_ne (h : text.Legible) : Text.trim text.body ≠ [] := by
  obtain ⟨field, fields, hfields⟩ := List.exists_cons_of_ne_nil h.fields_ne
  refine Text.trim_ne_nil (c := '\x60') (List.mem_cons_of_mem _ ?_) (by decide)
  rw [hfields]
  simp [FieldText.line]

theorem readDeclaration? (h : text.Legible) (tag : String) (rest : List Char) :
    readDeclaration? tag (.ofList text.name) ('\x7b' :: (text.body ++ '\x7d' :: rest))
      = some (text.declaration tag) := by
  have hbody : Sql.Brackets.inside { opening := '\x7b', closing := '\x7d', quotes }
      ('\x7b' :: (text.body ++ '\x7d' :: rest)) = text.body :=
    h.calm_body.inside_braces (by decide) (by decide) rest
  have hfields : (Text.lines text.body).filterMap (readField? tag)
      = text.fields.map (·.field tag) := by
    have hempty : readField? tag [] = none := rfl
    rw [lines_body h.fields, List.filterMap_cons, hempty, List.filterMap_map]
    exact List.filterMap_eq_map_iff_forall_eq_some.mpr fun field hfield =>
      (h.fields field hfield).readField?_line tag
  unfold Models.readDeclaration?
  rw [hbody]
  dsimp only
  rw [if_neg (by simpa using h.trim_body_ne), hfields, List.partition_eq_filter_filter]
  rfl

theorem headersFrom_toList (h : text.Legible) {before? : Option Char}
    (hbefore : before?.any Text.isWordChar = false) (rest : List Char) :
    headersFrom 0 before? (text.toList ++ rest)
      = (.ofList text.name, '\x7b' :: (text.body ++ '\x7d' :: '\n' :: rest))
        :: headersFrom 0 (some '\n') rest := by
  have htext : text.toList ++ rest
      = header text.name ++ '\x7b' :: (text.body ++ '\x7d' :: '\n' :: rest) := by
    simp [toList]
  -- the closing brace of the structure is the barrier that no header in the body goes across
  rw [htext, headersFrom_header hbefore h.name_ne h.name_word,
    headersFrom_append_of_barrier h.brace_not_mem_body (by decide) (by decide),
    headersFrom_cons_of_none rfl]

theorem calm_toList (h : text.Legible) : Calm ['/'] text.toList := by
  have hheader : Calm ['/'] (header text.name) := by
    refine (Calm.append (Calm.of_any (by decide)) (Calm.of_all fun c hc => ?_)).append
      (Calm.of_any (by decide))
    have hplain := not_mem_of_isTypeChar (isTypeChar_of_isWordChar (h.name_word c hc))
    exact ⟨fun hslash => hplain.1 (by simp_all [marks]), hplain.2⟩
  have hbody : Calm ['/'] text.body := h.calm_body.mono (by decide)
  have hclose : Calm ['/'] ['\x7d', '\n'] := Calm.of_any (by decide)
  exact hheader.append (.code (by decide) (by decide) (hbody.append hclose))

end Legible

end StructText

variable {structs : List StructText}

theorem filterMap_headersFrom_structs (tag : String) (h : ∀ text ∈ structs, text.Legible)
    {before? : Option Char} (hbefore : before?.any Text.isWordChar = false) :
    (headersFrom 0 before? (['\n'].intercalate (structs.map (·.toList)))).filterMap
        (fun (name, text) => readDeclaration? tag name text)
      = structs.map (·.declaration tag) := by
  have hbreak : (some '\n').any Text.isWordChar = false := by decide
  induction structs generalizing before? with
  | nil => rfl
  | cons text structs ih =>
      obtain ⟨htext, hrest⟩ := List.forall_mem_cons.mp h
      have hread := htext.readDeclaration? tag
      cases structs with
      | nil =>
          have hheaders := htext.headersFrom_toList hbefore []
          rw [List.append_nil] at hheaders
          rw [List.map_singleton, List.intercalate_singleton, hheaders, List.filterMap_cons]
          dsimp only
          rw [hread]
          rfl
      | cons next structs =>
          rw [List.map_cons, List.map_cons, List.intercalate_cons_cons, ← List.map_cons,
            List.append_assoc, htext.headersFrom_toList hbefore, List.singleton_append,
            headersFrom_cons_of_none rfl, List.filterMap_cons]
          dsimp only
          rw [hread, ih hrest hbreak]
          rfl

theorem calm_structs (h : ∀ text ∈ structs, text.Legible) :
    Calm ['/'] (['\n'].intercalate (structs.map (·.toList))) := by
  induction structs with
  | nil => exact .nil
  | cons text structs ih =>
      obtain ⟨htext, hrest⟩ := List.forall_mem_cons.mp h
      cases structs with
      | nil =>
          rw [List.map_singleton, List.intercalate_singleton]
          exact htext.calm_toList
      | cons next structs =>
          rw [List.map_cons, List.map_cons, List.intercalate_cons_cons, ← List.map_cons]
          exact (htext.calm_toList.append (.code (by decide) (by decide) .nil)).append (ih hrest)

/-- Behind an opening without comments and headers, the structures of a source are declared. -/
theorem declarations_structs (tag : String) {opening : List Char} (hcalm : Calm ['/'] opening)
    (hopening : ∀ rest, headersFrom 0 none (opening ++ rest) = headersFrom 0 (some '\n') rest)
    (h : ∀ text ∈ structs, text.Legible) :
    declarations tag (stripComments (opening ++ ['\n'].intercalate (structs.map (·.toList))))
      = structs.map (·.declaration tag) := by
  rw [(hcalm.append (calm_structs h)).stripComments_eq_self, declarations, hopening]
  exact filterMap_headersFrom_structs tag h (by decide)

end Models

end RelSchema
