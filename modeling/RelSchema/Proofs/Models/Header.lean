import RelSchema.Models.Declaration
import RelSchema.Proofs.Text.Class
import RelSchema.Proofs.Text.Cut
import RelSchema.Proofs.Text.Trim

/-!
# Headers of structures

A header runs from its first word to a brace over words and blanks only. So no header goes across
any other character, and a text that has such a character at its end hides no header unless it has
a brace.
-/

namespace RelSchema.Models

theorem takeWord?_append {word rest : List Char} (hne : word ≠ [])
    (hword : ∀ c ∈ word, Text.isWordChar c = true)
    (hrest : ∀ c ∈ rest.head?, Text.isWordChar c = false) :
    takeWord? (word ++ rest) = some (.ofList word, rest) := by
  rw [takeWord?, Text.takeWhile_append_eq hword hrest, Text.dropWhile_append_eq hword hrest]
  simp [hne]

theorem dropBlanks?_space {s : List Char} (hs : ∀ c ∈ s.head?, Text.isBlank c = false) :
    dropBlanks? (' ' :: s) = some s := by
  have hspace : Text.isBlank ' ' = true := by decide
  rw [dropBlanks?, if_pos hspace, Text.trimLeft_eq_self hs]

/-- What may stand in front of the brace of a header. -/
def isHeaderChar (c : Char) : Bool :=
  Text.isWordChar c || Text.isBlank c

/-- Whether words and blanks alone stand in front of the rest of a text. -/
def Reaches (s rest : List Char) : Prop :=
  ∃ front, s = front ++ rest ∧ ∀ c ∈ front, isHeaderChar c = true

theorem Reaches.trans {s t u : List Char} (hst : Reaches s t) (htu : Reaches t u) :
    Reaches s u := by
  obtain ⟨front, rfl, hfront⟩ := hst
  obtain ⟨behind, rfl, hbehind⟩ := htu
  exact ⟨front ++ behind, (List.append_assoc ..).symm, List.forall_mem_append.mpr ⟨hfront, hbehind⟩⟩

theorem Reaches.subset {s rest : List Char} (h : Reaches s rest) : rest ⊆ s := by
  obtain ⟨front, rfl, -⟩ := h
  exact List.subset_append_right front rest

theorem reaches_trimLeft (s : List Char) : Reaches s (Text.trimLeft s) := by
  refine ⟨s.takeWhile Text.isBlank, List.takeWhile_append_dropWhile.symm, fun c hc => ?_⟩
  rw [isHeaderChar, List.mem_takeWhile_imp hc, Bool.or_true]

theorem reaches_of_dropBlanks? {s rest : List Char} (h : dropBlanks? s = some rest) :
    Reaches s rest := by
  cases s with
  | nil => cases h
  | cons c s =>
      rw [dropBlanks?] at h
      split_ifs at h with hc
      obtain rfl := Option.some.inj h
      have hfirst : Reaches (c :: s) s := ⟨[c], rfl, by simp [isHeaderChar, hc]⟩
      exact hfirst.trans (reaches_trimLeft s)

theorem reaches_of_takeWord? {s rest : List Char} {word : String}
    (h : takeWord? s = some (word, rest)) : Reaches s rest := by
  unfold takeWord? at h
  dsimp only at h
  split_ifs at h
  cases h
  refine ⟨s.takeWhile Text.isWordChar, List.takeWhile_append_dropWhile.symm, fun c hc => ?_⟩
  rw [isHeaderChar, List.mem_takeWhile_imp hc, Bool.true_or]

theorem reaches_of_dropPrefix? {start s rest : List Char}
    (hstart : ∀ c ∈ start, isHeaderChar c = true) (h : Text.dropPrefix? start s = some rest) :
    Reaches s rest :=
  ⟨start, Text.eq_append_of_dropPrefix? h, hstart⟩

theorem of_readHeader? {s text : List Char} {name : String}
    (h : readHeader? s = some (name, text)) : Reaches s text ∧ text.head? = some '\x7b' := by
  unfold readHeader? at h
  obtain ⟨behind, hblanks, h⟩ := Option.bind_eq_some_iff.mp h
  obtain ⟨⟨word, tail⟩, hword, h⟩ := Option.bind_eq_some_iff.mp h
  dsimp only at h
  obtain ⟨rest, hrest, h⟩ := Option.bind_eq_some_iff.mp h
  have hstruct : Reaches rest
      (((Text.dropPrefix? "struct".toList rest).map Text.trimLeft).getD rest) := by
    cases hkeyword : Text.dropPrefix? "struct".toList rest with
    | none => exact ⟨[], rfl, List.forall_mem_nil _⟩
    | some after =>
        exact (reaches_of_dropPrefix? (List.all_eq_true.mp (by decide)) hkeyword).trans
          (reaches_trimLeft after)
  split_ifs at h with hbrace
  obtain ⟨rfl, rfl⟩ := Prod.mk.injEq .. ▸ Option.some.inj h
  refine ⟨?_, by simpa using hbrace⟩
  exact (reaches_of_dropBlanks? hblanks).trans <| (reaches_of_takeWord? hword).trans <|
    (reaches_of_dropBlanks? hrest).trans hstruct

theorem head?_ne_of_reaches {s rest text : List Char} {c : Char} (hs : '\x7b' ∉ s)
    (hbrace : c ≠ '\x7b') (hc : isHeaderChar c = false) (h : Reaches (s ++ c :: rest) text) :
    text.head? ≠ some '\x7b' := by
  intro htext
  obtain ⟨front, hsplit, hfront⟩ := h
  obtain ⟨tail, rfl⟩ : ∃ tail, text = '\x7b' :: tail := by
    cases text with
    | nil => cases htext
    | cons d tail => exact ⟨tail, by rw [Option.some.inj htext]⟩
  -- the brace stands behind the barrier, which is then part of the front, or not
  rcases List.append_eq_append_iff.mp hsplit with ⟨before, rfl, hbefore⟩ | ⟨behind, rfl, hbehind⟩
  · cases before with
    | nil => exact hbrace (List.cons.inj hbefore).1
    | cons d before =>
        obtain rfl := (List.cons.inj hbefore).1
        rw [hfront c (by simp)] at hc
        cases hc
  · cases behind with
    | nil => exact hbrace (List.cons.inj hbehind).1.symm
    | cons d behind =>
        obtain rfl := (List.cons.inj hbehind).1
        exact hs (by simp)

/-- The header that starts a text, if one does. -/
def startHeader? (s : List Char) : Option (String × List Char) :=
  (Text.dropPrefix? "type".toList s).bind readHeader?

theorem headersFrom_cons_of_none {before? : Option Char} {c : Char} {rest : List Char}
    (h : startHeader? (c :: rest) = none) :
    headersFrom 0 before? (c :: rest) = headersFrom 0 (some c) rest := by
  have hfound : (if before?.any Text.isWordChar then none
      else (Text.dropPrefix? "type".toList (c :: rest)).bind readHeader?) = none := by
    split_ifs
    · rfl
    · exact h
  rw [headersFrom]
  rw [hfound]

theorem startHeader?_eq_none_of_barrier {s : List Char} {c : Char} (hs : '\x7b' ∉ s)
    (hbrace : c ≠ '\x7b') (hc : isHeaderChar c = false) (rest : List Char) :
    startHeader? (s ++ c :: rest) = none := by
  rw [Option.eq_none_iff_forall_ne_some]
  rintro ⟨name, text⟩ h
  obtain ⟨after, hafter, h⟩ := Option.bind_eq_some_iff.mp h
  obtain ⟨hreaches, htext⟩ := of_readHeader? h
  have hstart := reaches_of_dropPrefix? (List.all_eq_true.mp (by decide)) hafter
  exact head?_ne_of_reaches hs hbrace hc (hstart.trans hreaches) htext

/-- No header goes across a character that can stand in none. -/
theorem headersFrom_append_of_barrier {s : List Char} {c : Char} (hs : '\x7b' ∉ s)
    (hbrace : c ≠ '\x7b') (hc : isHeaderChar c = false) (before? : Option Char)
    (rest : List Char) : headersFrom 0 before? (s ++ c :: rest) = headersFrom 0 (some c) rest := by
  have hfirst := startHeader?_eq_none_of_barrier hs hbrace hc rest
  induction s generalizing before? with
  | nil => exact headersFrom_cons_of_none hfirst
  | cons d s ih =>
      have hrest : '\x7b' ∉ s := fun h => hs (List.mem_cons_of_mem d h)
      exact (headersFrom_cons_of_none hfirst).trans
        (ih hrest (some d) (startHeader?_eq_none_of_barrier hrest hbrace hc rest))

/-- No header starts in a text without its first letter. -/
theorem headersFrom_append_of_not_mem {s : List Char} (hs : 't' ∉ s) (before? : Option Char)
    (rest : List Char) :
    headersFrom 0 before? (s ++ rest) = headersFrom 0 (s.getLast?.or before?) rest := by
  induction s generalizing before? with
  | nil => rfl
  | cons c s ih =>
      have hfirst : startHeader? (c :: (s ++ rest)) = none := by
        have hc : ('t' == c) = false :=
          beq_eq_false_iff_ne.mpr fun h => hs (h ▸ List.mem_cons_self)
        simp [startHeader?, Text.dropPrefix?, hc]
      rw [List.cons_append, headersFrom_cons_of_none hfirst,
        ih fun h => hs (List.mem_cons_of_mem c h)]
      cases hlast : s.getLast? with
      | none => simp [List.getLast?_eq_none_iff.mp hlast]
      | some d => simp [List.getLast?_cons, hlast]

/-- The first line of a structure, up to its brace. -/
def header (name : List Char) : List Char :=
  "type ".toList ++ name ++ " struct ".toList

theorem headersFrom_skip (s : List Char) (before? : Option Char) (c : Char) (rest : List Char) :
    headersFrom (s.length + 1) before? (s ++ c :: rest) = headersFrom 0 (some c) rest := by
  induction s generalizing before? with
  | nil => rfl
  | cons d s ih => exact ih (some d)

theorem startHeader?_header {name : List Char} (hne : name ≠ [])
    (hname : ∀ c ∈ name, Text.isWordChar c = true) (rest : List Char) :
    startHeader? (header name ++ '\x7b' :: rest) = some (.ofList name, '\x7b' :: rest) := by
  obtain ⟨first, more, hfirst⟩ := List.exists_cons_of_ne_nil hne
  have hheader : header name ++ '\x7b' :: rest
      = "type".toList ++ ' ' :: (name ++ ' ' :: ("struct".toList ++ ' ' :: '\x7b' :: rest)) := by
    unfold header
    simp
  have hblank : ∀ c ∈ (name ++ ' ' :: ("struct".toList ++ ' ' :: '\x7b' :: rest)).head?,
      Text.isBlank c = false := by
    simpa [hfirst] using Text.isBlank_of_isWordChar (hname first (hfirst ▸ List.mem_cons_self))
  have hbehind : ∀ c ∈ (' ' :: ("struct".toList ++ ' ' :: '\x7b' :: rest)).head?,
      Text.isWordChar c = false := by
    simp only [List.head?_cons, Option.mem_some_iff, forall_eq']
    decide
  have hkeyword : dropBlanks? (' ' :: ("struct".toList ++ ' ' :: '\x7b' :: rest))
      = some ("struct".toList ++ ' ' :: '\x7b' :: rest) := rfl
  rw [hheader, startHeader?, Text.dropPrefix?_append, Option.bind_some, readHeader?]
  simp only [Option.bind_eq_bind, Option.bind_some, dropBlanks?_space hblank,
    takeWord?_append hne hname hbehind, hkeyword, Text.dropPrefix?_append]
  rfl

theorem headersFrom_header {before? : Option Char}
    (hbefore : before?.any Text.isWordChar = false) {name : List Char} (hne : name ≠ [])
    (hname : ∀ c ∈ name, Text.isWordChar c = true) (rest : List Char) :
    headersFrom 0 before? (header name ++ '\x7b' :: rest)
      = (.ofList name, '\x7b' :: rest) :: headersFrom 0 (some '\x7b') rest := by
  have hfound := startHeader?_header hne hname rest
  set more := "ype ".toList ++ name ++ " struct ".toList with hmore
  have hstart : header name ++ '\x7b' :: rest = 't' :: (more ++ '\x7b' :: rest) := by
    unfold header
    simp [hmore]
  have hskip : (more ++ '\x7b' :: rest).length + 1 - ('\x7b' :: rest).length = more.length + 1 := by
    simp only [List.length_append, List.length_cons]
    omega
  rw [hstart] at hfound ⊢
  have hif : (if before?.any Text.isWordChar then none
      else (Text.dropPrefix? "type".toList ('t' :: (more ++ '\x7b' :: rest))).bind readHeader?)
        = some (.ofList name, '\x7b' :: rest) := by
    rw [if_neg (by rw [hbefore]; exact Bool.false_ne_true)]
    exact hfound
  rw [headersFrom, hif]
  dsimp only
  rw [hskip, headersFrom_skip]

end RelSchema.Models
