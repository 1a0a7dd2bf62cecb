import RelSchema.Models.Render
import RelSchema.Proofs.Keyed
import RelSchema.Proofs.Sql.Token
import RelSchema.Proofs.Text.Cut
import RelSchema.Proofs.Text.Trim

/-!
# Options that are read back

Options stand behind each other between semicolons, in a quoted text whose backslashes and quotes
are escaped. The last of them may be a text of any kind: single quotes around it, doubled inside,
keep its semicolons. A text stands between options as it is if no quote of its own ends the quoted
text, and if it leaves no value open.
-/

namespace RelSchema.Models

/-- The text with a backslash in front of each character that could end a quoted text. -/
def escaped (s : List Char) : List Char :=
  s.flatMap fun c => if c == '\\' || c == '"' then ['\\', c] else [c]

theorem escaped_append (s t : List Char) : escaped (s ++ t) = escaped s ++ escaped t :=
  List.flatMap_append

theorem escaped_cons_of_ne {c : Char} (hslash : c ≠ '\\') (hquote : c ≠ '"') (s : List Char) :
    escaped (c :: s) = c :: escaped s := by
  rw [escaped, List.flatMap_cons, if_neg (by simp [hslash, hquote])]
  rfl

theorem escaped_cons_of_eq {c : Char} (hc : c = '\\' ∨ c = '"') (s : List Char) :
    escaped (c :: s) = '\\' :: c :: escaped s := by
  rw [escaped, List.flatMap_cons, if_pos (by simpa using hc)]
  rfl

theorem escaped_eq_self {s : List Char} (hs : ∀ c ∈ s, c ≠ '\\' ∧ c ≠ '"') : escaped s = s := by
  induction s with
  | nil => rfl
  | cons c s ih =>
      obtain ⟨hc, hrest⟩ := List.forall_mem_cons.mp hs
      rw [escaped_cons_of_ne hc.1 hc.2, ih hrest]

theorem mem_of_mem_escaped {s : List Char} {c : Char} (hc : c ∈ escaped s) : c = '\\' ∨ c ∈ s := by
  obtain ⟨d, hd, hc⟩ := List.mem_flatMap.mp hc
  split_ifs at hc
  · rcases List.mem_cons.mp hc with rfl | hc
    · exact Or.inl rfl
    · exact Or.inr (List.mem_singleton.mp hc ▸ hd)
  · exact Or.inr (List.mem_singleton.mp hc ▸ hd)

/-- A text that does not end the quoted text around it: each quote is escaped, and each backslash
escapes a character that is no line break. -/
inductive Sealed : List Char → Prop
  | nil : Sealed []
  | char {c : Char} {s : List Char} : c ≠ '\\' → c ≠ '"' → Sealed s → Sealed (c :: s)
  | escape {c : Char} {s : List Char} : c ≠ '\n' → Sealed s → Sealed ('\\' :: c :: s)

theorem quotedText?_cons {c : Char} (hslash : c ≠ '\\') (hquote : c ≠ '"') (s : List Char) :
    quotedText? (c :: s) = (quotedText? s).map fun found => (c :: found.1, found.2) := by
  rw [quotedText?]
  all_goals simp_all

theorem quotedText?_escape {c : Char} (hc : c ≠ '\n') (s : List Char) :
    quotedText? ('\\' :: c :: s)
      = (quotedText? s).map fun found => ('\\' :: c :: found.1, found.2) := by
  rw [quotedText?, beq_eq_false_iff_ne.mpr hc]
  rfl

theorem unescape_cons {c : Char} (hslash : c ≠ '\\') (s : List Char) :
    unescape (c :: s) = c :: unescape s := by
  rw [unescape]
  all_goals simp_all

theorem unescape_escape {c : Char} (hc : c ≠ '\n') (s : List Char) :
    unescape ('\\' :: c :: s) = c :: unescape s := by
  rw [unescape, beq_eq_false_iff_ne.mpr hc]
  rfl

namespace Sealed

variable {s t : List Char}

theorem append (hs : Sealed s) (ht : Sealed t) : Sealed (s ++ t) := by
  induction hs with
  | nil => exact ht
  | char hslash hquote _ ih => exact .char hslash hquote ih
  | escape hbreak _ ih => exact .escape hbreak ih

theorem of_forall (hs : ∀ c ∈ s, c ≠ '\\' ∧ c ≠ '"') : Sealed s := by
  induction s with
  | nil => exact .nil
  | cons c s ih =>
      obtain ⟨hc, hrest⟩ := List.forall_mem_cons.mp hs
      exact .char hc.1 hc.2 (ih hrest)

theorem quotedText?_append (hs : Sealed s) (rest : List Char) :
    quotedText? (s ++ rest) = (quotedText? rest).map fun found => (s ++ found.1, found.2) := by
  induction hs with
  | nil => simp
  | char hslash hquote _ ih =>
      rw [List.cons_append, quotedText?_cons hslash hquote, ih, Option.map_map]
      rfl
  | escape hbreak _ ih =>
      rw [List.cons_append, List.cons_append, quotedText?_escape hbreak, ih, Option.map_map]
      rfl

theorem quotedText?_quote (hs : Sealed s) (rest : List Char) :
    quotedText? (s ++ '"' :: rest) = some (s, rest) := by
  rw [hs.quotedText?_append, quotedText?, Option.map_some, List.append_nil]

theorem unescape_append (hs : Sealed s) (t : List Char) :
    unescape (s ++ t) = unescape s ++ unescape t := by
  induction hs with
  | nil => rfl
  | char hslash _ _ ih => rw [List.cons_append, unescape_cons hslash, unescape_cons hslash, ih]; rfl
  | escape hbreak _ ih =>
      rw [List.cons_append, List.cons_append, unescape_escape hbreak, unescape_escape hbreak, ih]
      rfl

end Sealed

theorem sealed_escaped (s : List Char) : Sealed (escaped s) := by
  induction s with
  | nil => exact .nil
  | cons c s ih =>
      by_cases hc : c = '\\' ∨ c = '"'
      · rw [escaped_cons_of_eq hc]
        exact .escape (by rcases hc with rfl | rfl <;> decide) ih
      · obtain ⟨hslash, hquote⟩ := not_or.mp hc
        rw [escaped_cons_of_ne hslash hquote]
        exact .char hslash hquote ih

/-- A text that is not sealed ends the quoted text early, or takes the end from it. -/
theorem sealed_or (s : List Char) :
    Sealed s ∨ (∃ front behind, Sealed front ∧ s = front ++ '"' :: behind) ∨
      quotedText? (s ++ ['"']) = none := by
  have hpush : ∀ {front s : List Char}, Sealed front →
      (Sealed s ∨ (∃ front behind, Sealed front ∧ s = front ++ '"' :: behind) ∨
        quotedText? (s ++ ['"']) = none) →
      Sealed (front ++ s) ∨
        (∃ more behind, Sealed more ∧ front ++ s = more ++ '"' :: behind) ∨
        quotedText? (front ++ s ++ ['"']) = none := by
    rintro front s hfront (hs | ⟨more, behind, hmore, rfl⟩ | hnone)
    · exact Or.inl (hfront.append hs)
    · exact Or.inr (Or.inl ⟨front ++ more, behind, hfront.append hmore, by simp⟩)
    · refine Or.inr (Or.inr ?_)
      rw [List.append_assoc, hfront.quotedText?_append, hnone]
      rfl
  fun_induction unescape s with
  | case1 => exact Or.inl .nil
  | case2 => exact Or.inr (Or.inr (by decide))
  | case3 c rest hbreak ih =>
      refine Or.inr (Or.inr ?_)
      rw [List.cons_append, List.cons_append, quotedText?, if_pos hbreak]
  | case4 c rest hbreak ih =>
      have hfront : Sealed ['\\', c] := .escape (by simpa using hbreak) .nil
      exact hpush hfront ih
  | case5 c rest hend hslash ih =>
      by_cases hquote : c = '"'
      · rw [hquote]
        exact Or.inr (Or.inl ⟨[], rest, .nil, rfl⟩)
      · have hc : c ≠ '\\' := by
          rintro rfl
          cases rest with
          | nil => exact hend rfl rfl
          | cons d rest => exact hslash d rest rfl rfl
        have hfront : Sealed [c] := .char hc hquote .nil
        exact hpush hfront ih

theorem quotedText?_escaped (s rest : List Char) :
    quotedText? (escaped s ++ '"' :: rest) = some (escaped s, rest) :=
  (sealed_escaped s).quotedText?_quote rest

theorem unescape_escaped (s : List Char) : unescape (escaped s) = s := by
  induction s with
  | nil => rfl
  | cons c s ih =>
      by_cases hc : c = '\\' ∨ c = '"'
      · have hbreak : (c == '\n') = false := by rcases hc with rfl | rfl <;> decide
        rw [escaped_cons_of_eq hc, unescape, hbreak, ih]
        rfl
      · obtain ⟨hslash, hquote⟩ := not_or.mp hc
        rw [escaped_cons_of_ne hslash hquote, unescape, ih]
        all_goals simp_all

theorem tagsFrom_word {word : List Char} (hword : ∀ c ∈ word, Text.isWordChar c = true)
    (before rest : List Char) :
    tagsFrom 0 before (word ++ rest) = tagsFrom 0 (word.reverse ++ before) rest := by
  induction word generalizing before with
  | nil => rfl
  | cons c word ih =>
      obtain ⟨hc, hrest⟩ := List.forall_mem_cons.mp hword
      rw [List.cons_append, tagsFrom, if_pos hc, ih hrest, List.reverse_cons, List.append_assoc]
      rfl

theorem tagsFrom_skip (s rest : List Char) :
    tagsFrom s.length [] (s ++ rest) = tagsFrom 0 [] rest := by
  induction s with
  | nil => rfl
  | cons c s ih => exact ih

theorem tags_colon {name : List Char} (hne : name ≠ [])
    (hname : ∀ c ∈ name, Text.isWordChar c = true) (rest : List Char) :
    tags (name ++ ':' :: '"' :: rest) = match quotedText? rest with
      | some (text, _) => (name, text) :: tagsFrom (text.length + 2) [] ('"' :: rest)
      | none => tags rest := by
  have hcolon : Text.isWordChar ':' = false := by decide
  have hquote : tagsFrom 0 [] ('"' :: rest) = tags rest := by
    have hword : Text.isWordChar '"' = false := by decide
    rw [tagsFrom, hword]
    rfl
  rw [tags, tagsFrom_word hname, List.append_nil, tagsFrom, hcolon]
  cases hfound : quotedText? rest with
  | none => simp [hne, hfound, hquote]
  | some found => simp [hne, hfound]

/-- A quoted text behind a word is a tag, and the text behind it is searched for more of them. -/
theorem tags_quoted {name text rest : List Char} (hne : name ≠ [])
    (hname : ∀ c ∈ name, Text.isWordChar c = true)
    (htext : quotedText? (text ++ '"' :: rest) = some (text, rest)) :
    tags (name ++ ':' :: '"' :: (text ++ '"' :: rest)) = (name, text) :: tags rest := by
  have hskip : tagsFrom (text.length + 2) [] ('"' :: (text ++ '"' :: rest)) = tags rest := by
    have happend : '"' :: (text ++ '"' :: rest) = ('"' :: text ++ ['"']) ++ rest := by simp
    have hlength : text.length + 2 = ('"' :: text ++ ['"']).length := by simp
    rw [happend, hlength]
    exact tagsFrom_skip _ rest
  rw [tags_colon hne hname, htext, ← hskip]

theorem tags_cons {name : List Char} (hne : name ≠ [])
    (hname : ∀ c ∈ name, Text.isWordChar c = true) (s rest : List Char) :
    tags (name ++ ':' :: '"' :: (escaped s ++ '"' :: rest)) = (name, escaped s) :: tags rest :=
  tags_quoted hne hname (quotedText?_escaped s rest)

theorem tags_space (rest : List Char) : tags (' ' :: rest) = tags rest := rfl

/-- The annotation of a field: options in a tag of their own, and a name in a second one. -/
def tagged (options name : List Char) : List Char :=
  "gorm".toList ++ ':' :: '"' :: (escaped options ++ '"' :: ' ' :: ("json".toList ++ ':' :: '"' ::
    (escaped name ++ ['"'])))

theorem optionText_tagged (options name : List Char) :
    optionText (tagged options name) "gorm" = options := by
  have htags : tags (tagged options name)
      = [("gorm".toList, escaped options), ("json".toList, escaped name)] := by
    rw [tagged, tags_cons (by decide) (List.all_eq_true.mp (by decide)), tags_space,
      tags_cons (by decide) (List.all_eq_true.mp (by decide))]
    rfl
  rw [optionText, htags]
  exact unescape_escaped options

/-- Whether a character neither separates options nor quotes a value. -/
def isPlain (c : Char) : Bool :=
  c != ';' && c != '\''

theorem isPlain_iff {c : Char} : isPlain c = true ↔ c ≠ ';' ∧ c ≠ '\'' := by
  simp [isPlain]

/-- A value in single quotes if it could end the option or opens with such a quote. -/
def wrapped (s : List Char) : List Char :=
  if s.contains ';' || s.head? == some '\'' then Naming.enclosed '\'' s else s

theorem mem_of_mem_wrapped {s : List Char} {c : Char} (hc : c ∈ wrapped s) : c = '\'' ∨ c ∈ s := by
  have hdoubled : c ∈ Naming.doubled '\'' s → c = '\'' ∨ c ∈ s := by
    intro hmem
    obtain ⟨d, hd, hmem⟩ := List.mem_flatMap.mp hmem
    split_ifs at hmem with hquote
    · exact Or.inl (by simpa using hmem)
    · exact Or.inr (List.mem_singleton.mp hmem ▸ hd)
  unfold wrapped at hc
  split_ifs at hc
  · rcases List.mem_append.mp hc with hmem | hmem
    · exact (List.mem_cons.mp hmem).elim Or.inl hdoubled
    · exact Or.inl (List.mem_singleton.mp hmem)
  · exact Or.inr hc

theorem wrapped_of_plain {s : List Char} (hs : ∀ c ∈ s, isPlain c = true) : wrapped s = s := by
  refine if_neg fun h => ?_
  rw [Bool.or_eq_true, List.contains_iff_mem, beq_iff_eq] at h
  rcases h with hmem | hhead
  · exact (isPlain_iff.mp (hs _ hmem)).1 rfl
  · exact (isPlain_iff.mp (hs _ (List.mem_of_head? hhead))).2 rfl

theorem optionValue_wrapped (s : List Char) : optionValue (wrapped s) = s := by
  unfold wrapped
  split_ifs with hwrap
  · obtain ⟨second, rest, hsecond⟩ :
        ∃ second rest, Naming.doubled '\'' s ++ ['\''] = second :: rest :=
      List.exists_cons_of_ne_nil (by simp)
    rw [Naming.enclosed, List.cons_append, hsecond, optionValue, ← hsecond]
    simp [Sql.replaceAll_doubled]
  · unfold optionValue
    split
    · simp at hwrap
    · rfl

theorem trim_wrapped {s : List Char} (hs : Text.trim s = s) :
    Text.trim (wrapped s) = wrapped s := by
  unfold wrapped
  split_ifs
  · apply Text.trim_eq_self
    · simp only [Naming.enclosed, List.cons_append, List.head?_cons, Option.mem_some_iff,
        forall_eq']
      decide
    · simp only [Naming.enclosed, List.getLast?_append, List.getLast?_singleton, Option.some_or,
        Option.mem_some_iff, forall_eq']
      decide
  · exact hs

/-! ### Parts of options

A semicolon ends a part unless it stands inside a value. So options are cut at the semicolons
between them if each one, read from outside values, leaves none open.
-/

theorem optionPartsFrom_of_not_mem {s : List Char} (hs : ';' ∉ s) (place : OptionPlace) :
    optionPartsFrom place s = [s] := by
  induction s generalizing place with
  | nil => rfl
  | cons c s ih =>
      have hc : (c == ';') = false := beq_eq_false_iff_ne.mpr fun h => hs (h ▸ List.mem_cons_self)
      rw [optionPartsFrom, ih fun h => hs (List.mem_cons_of_mem c h), hc]
      rfl

theorem next_outside {c : Char} (hc : c ≠ '\'') (last? : Option Char) :
    ∃ last?', (OptionPlace.outside last?).next c = .outside last?' := by
  have hquote : (c == '\'') = false := beq_eq_false_iff_ne.mpr hc
  refine ⟨if Text.isBlank c then last? else some c, ?_⟩
  rw [OptionPlace.next, OptionPlace.enter, hquote]
  rfl

theorem optionPartsFrom_cons {place : OptionPlace} {c : Char} {rest part : List Char}
    {parts : List (List Char)} (hc : c ≠ ';' ∨ place = .inside)
    (hrest : optionPartsFrom (place.next c) rest = part :: parts) :
    optionPartsFrom place (c :: rest) = (c :: part) :: parts := by
  have hsplit : (c == ';' && place != .inside) = false := by
    rcases hc with hc | rfl
    · rw [beq_eq_false_iff_ne.mpr hc, Bool.false_and]
    · rw [show (OptionPlace.inside != OptionPlace.inside) = false by decide, Bool.and_false]
  rw [optionPartsFrom, hrest, hsplit]
  rfl

theorem optionPartsFrom_append {part : List Char} (hpart : ∀ c ∈ part, isPlain c = true)
    (last? : Option Char) (rest : List Char) :
    optionPartsFrom (.outside last?) (part ++ ';' :: rest)
      = part :: optionPartsFrom (.outside (some ';')) rest := by
  induction part generalizing last? with
  | nil => rfl
  | cons c part ih =>
      obtain ⟨hc, hrest⟩ := List.forall_mem_cons.mp hpart
      rw [isPlain_iff] at hc
      obtain ⟨last?', hnext⟩ := next_outside hc.2 last?
      rw [List.cons_append]
      exact optionPartsFrom_cons (Or.inl hc.1) (by rw [hnext]; exact ih hrest last?')

theorem optionPartsFrom_doubled (s : List Char) :
    optionPartsFrom .inside (Naming.doubled '\'' s ++ ['\''])
      = [Naming.doubled '\'' s ++ ['\'']] := by
  induction s with
  | nil => rfl
  | cons c s ih =>
      by_cases hc : c = '\''
      · subst hc
        rw [Sql.doubled_cons_self]
        exact optionPartsFrom_cons (Or.inr rfl) (optionPartsFrom_cons (Or.inl (by decide)) ih)
      · have hnext : OptionPlace.inside.next c = .inside := by
          rw [OptionPlace.next, beq_eq_false_iff_ne.mpr hc]
          rfl
        rw [Sql.doubled_cons_of_ne hc]
        exact optionPartsFrom_cons (Or.inr rfl) (by rw [hnext]; exact ih)

/-- Whether a text is a single part wherever it stands behind other parts. -/
def IsPart (part : List Char) : Prop :=
  ∀ last?, optionPartsFrom (.outside last?) part = [part]

theorem isPart_of_plain {part : List Char} (hpart : ∀ c ∈ part, isPlain c = true) : IsPart part :=
  fun _ => optionPartsFrom_of_not_mem (fun h => (isPlain_iff.mp (hpart _ h)).1 rfl) _

/-- A value of any kind makes a single part, if it is wrapped where it has to be. -/
theorem isPart_wrapped {key : List Char} (hkey : ∀ c ∈ key, isPlain c = true) (s : List Char) :
    IsPart (key ++ ':' :: wrapped s) := by
  intro last?
  unfold wrapped
  split_ifs with hwrap
  · induction key generalizing last? with
    | nil =>
        have hvalue := optionPartsFrom_doubled s
        exact optionPartsFrom_cons (Or.inl (by decide))
          (optionPartsFrom_cons (Or.inl (by decide)) hvalue)
    | cons c key ih =>
        obtain ⟨hc, hrest⟩ := List.forall_mem_cons.mp hkey
        rw [isPlain_iff] at hc
        obtain ⟨last?', hnext⟩ := next_outside hc.2 last?
        exact optionPartsFrom_cons (Or.inl hc.1) (by rw [hnext]; exact ih hrest last?')
  · refine optionPartsFrom_of_not_mem (fun h => ?_) _
    simp only [Bool.or_eq_true, List.contains_iff_mem, not_or] at hwrap
    rcases List.mem_append.mp h with hmem | hmem
    · exact (isPlain_iff.mp (hkey _ hmem)).1 rfl
    · rcases List.mem_cons.mp hmem with hcolon | hmem
      · exact absurd hcolon (by decide)
      · exact hwrap.1 hmem

namespace OptionPlace

def after (place : OptionPlace) (s : List Char) : OptionPlace :=
  s.foldl next place

theorem next_semicolon {place : OptionPlace} (h : place ≠ .inside) :
    place.next ';' = .outside (some ';') := by
  cases place with
  | inside => exact absurd rfl h
  | outside last? => rfl
  | halted => rfl

end OptionPlace

theorem optionPartsFrom_ne_nil (place : OptionPlace) (s : List Char) :
    optionPartsFrom place s ≠ [] := by
  cases s with
  | nil => exact List.cons_ne_nil _ _
  | cons c s =>
      rw [optionPartsFrom]
      split_ifs
      · exact List.cons_ne_nil _ _
      · split <;> exact List.cons_ne_nil _ _

theorem optionPartsFrom_semicolon {place : OptionPlace} (h : place ≠ .inside) (s : List Char) :
    optionPartsFrom place (';' :: s) = [] :: optionPartsFrom (.outside (some ';')) s := by
  have hplace : (place != .inside) = true := bne_iff_ne.mpr h
  rw [optionPartsFrom, hplace, OptionPlace.next_semicolon h]
  rfl

/-- Behind a text with no open value a semicolon ends its last part. -/
theorem optionPartsFrom_append_semicolon {place : OptionPlace} {s : List Char}
    (h : place.after s ≠ .inside) (rest : List Char) :
    optionPartsFrom place (s ++ ';' :: rest)
      = optionPartsFrom place s ++ optionPartsFrom (.outside (some ';')) rest := by
  induction s generalizing place with
  | nil => exact optionPartsFrom_semicolon h rest
  | cons c s ih =>
      have hnext : (place.next c).after s ≠ .inside := h
      have hbehind := ih hnext
      obtain ⟨part, parts, hparts⟩ :=
        List.exists_cons_of_ne_nil (optionPartsFrom_ne_nil (place.next c) s)
      rw [hparts, List.cons_append] at hbehind
      by_cases hc : c = ';' ∧ place ≠ .inside
      · obtain ⟨rfl, hplace⟩ := hc
        rw [OptionPlace.next_semicolon hplace] at hbehind hparts
        rw [List.cons_append, optionPartsFrom_semicolon hplace, optionPartsFrom_semicolon hplace,
          hbehind, hparts]
        rfl
      · have hkept : c ≠ ';' ∨ place = .inside := (not_and_or.mp hc).imp_right not_not.mp
        rw [List.cons_append, optionPartsFrom_cons hkept hbehind, optionPartsFrom_cons hkept hparts]
        rfl

theorem optionPartsFrom_inside {s : List Char} (hs : '\'' ∉ s) :
    optionPartsFrom .inside s = [s] := by
  induction s with
  | nil => rfl
  | cons c s ih =>
      obtain ⟨hc, hrest⟩ := not_or.mp (List.mem_cons.not.mp hs)
      have hnext : OptionPlace.inside.next c = .inside := by
        rw [OptionPlace.next, beq_eq_false_iff_ne.mpr (Ne.symm hc)]
        rfl
      exact optionPartsFrom_cons (Or.inr rfl) (by rw [hnext]; exact ih hrest)

/-- Whether a colon stands in front of a place, in the part that it is in. -/
def OptionPlace.IsBehindColon (place : OptionPlace) : Prop :=
  place = .inside ∨ place = .halted ∨ place = .outside (some ':')

theorem OptionPlace.isBehindColon_of_next {place : OptionPlace} {c : Char}
    (h : (place.next c).IsBehindColon) : c = ':' ∨ place.IsBehindColon := by
  unfold IsBehindColon at h ⊢
  cases place with
  | inside => exact Or.inr (Or.inl rfl)
  | halted => exact Or.inr (Or.inr (Or.inl rfl))
  | outside last? =>
      by_cases hopen : (c == '\'' && last? == some ':') = true
      · have hlast := beq_iff_eq.mp (Bool.and_eq_true_iff.mp hopen).2
        rw [hlast]
        exact Or.inr (Or.inr (Or.inr rfl))
      · rw [next, enter, if_neg hopen] at h
        by_cases hblank : Text.isBlank c = true
        · rw [if_pos hblank] at h
          exact Or.inr h
        · rw [if_neg hblank] at h
          exact Or.inl (by simpa using h)

/-- Behind a text that leaves a value open, all that holds no quote goes to its last part, and there
it stands behind a colon. -/
theorem exists_optionPartsFrom_append {s t : List Char} {place : OptionPlace}
    (h : place.after s = .inside) (ht : '\'' ∉ t) :
    ∃ parts last, optionPartsFrom place s = parts ++ [last] ∧
      optionPartsFrom place (s ++ t) = parts ++ [last ++ t] ∧
      (':' ∈ last ∨ parts = [] ∧ place.IsBehindColon) := by
  induction s generalizing place with
  | nil =>
      obtain rfl : place = .inside := h
      exact ⟨[], [], rfl, optionPartsFrom_inside ht, Or.inr ⟨rfl, Or.inl rfl⟩⟩
  | cons c s ih =>
      have hnext : (place.next c).after s = .inside := h
      obtain ⟨parts, last, hparts, happend, hcolon⟩ := ih hnext
      by_cases hc : c = ';' ∧ place ≠ .inside
      · obtain ⟨rfl, hplace⟩ := hc
        rw [OptionPlace.next_semicolon hplace] at hparts happend hcolon
        refine ⟨[] :: parts, last, ?_, ?_, Or.inl ?_⟩
        · rw [optionPartsFrom_semicolon hplace, hparts, List.cons_append]
        · rw [List.cons_append, optionPartsFrom_semicolon hplace, happend, List.cons_append]
        · refine hcolon.resolve_right fun hopen => ?_
          rcases hopen.2 with hinside | hhalted | houtside
          · cases hinside
          · cases hhalted
          · exact absurd houtside (by decide)
      · have hkept : c ≠ ';' ∨ place = .inside := (not_and_or.mp hc).imp_right not_not.mp
        cases parts with
        | nil =>
            refine ⟨[], c :: last, optionPartsFrom_cons hkept hparts,
              optionPartsFrom_cons hkept happend, ?_⟩
            rcases hcolon with hcolon | ⟨-, hcolon⟩
            · exact Or.inl (List.mem_cons_of_mem c hcolon)
            · rcases OptionPlace.isBehindColon_of_next hcolon with rfl | hcolon
              · exact Or.inl List.mem_cons_self
              · exact Or.inr ⟨rfl, hcolon⟩
        | cons part parts =>
            refine ⟨(c :: part) :: parts, last, optionPartsFrom_cons hkept hparts,
              optionPartsFrom_cons hkept happend, Or.inl ?_⟩
            exact hcolon.resolve_right fun hnil => List.cons_ne_nil _ _ hnil.1

/-- Plain parts with a last part of any kind behind them are told apart. -/
theorem optionPartsFrom_intercalate {parts : List (List Char)} {last : List Char}
    (hparts : ∀ part ∈ parts, ∀ c ∈ part, isPlain c = true) (hlast : IsPart last)
    (last? : Option Char) :
    optionPartsFrom (.outside last?) ([';'].intercalate (parts ++ [last])) = parts ++ [last] := by
  induction parts generalizing last? with
  | nil => simpa using hlast last?
  | cons part parts ih =>
      obtain ⟨hpart, hrest⟩ := List.forall_mem_cons.mp hparts
      obtain ⟨next, more, hmore⟩ : ∃ next more, parts ++ [last] = next :: more :=
        List.exists_cons_of_ne_nil (by simp)
      have hbehind := ih hrest (some ';')
      rw [hmore] at hbehind
      rw [List.cons_append, hmore, List.intercalate_cons_cons, List.append_assoc,
        List.singleton_append, optionPartsFrom_append hpart, hbehind]

theorem optionPartsFrom_intercalate_toList {parts : List (List Char)}
    (hparts : ∀ part ∈ parts, ∀ c ∈ part, isPlain c = true) {last? : Option (List Char)}
    (hlast : ∀ last ∈ last?, IsPart last) (hne : parts ++ last?.toList ≠ [])
    (before? : Option Char) :
    optionPartsFrom (.outside before?) ([';'].intercalate (parts ++ last?.toList))
      = parts ++ last?.toList := by
  cases last? with
  | some last => exact optionPartsFrom_intercalate hparts (hlast last rfl) before?
  | none =>
      rw [Option.toList_none, List.append_nil] at hne ⊢
      rw [← List.dropLast_append_getLast hne]
      exact optionPartsFrom_intercalate
        (fun part hpart => hparts part (List.dropLast_subset parts hpart))
        (isPart_of_plain (hparts _ (List.getLast_mem hne))) before?

theorem mem_of_mem_intercalate {parts : List (List Char)} {c : Char}
    (hc : c ∈ [';'].intercalate parts) : c = ';' ∨ ∃ part ∈ parts, c ∈ part := by
  induction parts with
  | nil => cases hc
  | cons part parts ih =>
      cases parts with
      | nil => exact Or.inr ⟨part, List.mem_cons_self, by simpa using hc⟩
      | cons next parts =>
          rw [List.intercalate_cons_cons, List.mem_append, List.mem_append] at hc
          rcases hc with (hpart | hsemicolon) | hrest
          · exact Or.inr ⟨part, List.mem_cons_self, hpart⟩
          · exact Or.inl (List.mem_singleton.mp hsemicolon)
          · refine (ih hrest).imp_right ?_
            rintro ⟨found, hfound, hc⟩
            exact ⟨found, List.mem_cons_of_mem part hfound, hc⟩

theorem escaped_intercalate (parts : List (List Char)) :
    escaped ([';'].intercalate parts) = [';'].intercalate (parts.map escaped) := by
  induction parts with
  | nil => rfl
  | cons part parts ih =>
      cases parts with
      | nil => simp only [List.map_singleton, List.intercalate_singleton]
      | cons next parts =>
          rw [List.intercalate_cons_cons, escaped_append, escaped_append, ih]
          simp only [List.map_cons, List.intercalate_cons_cons]
          rfl

theorem readOption_append {key : List Char} (hkey : ':' ∉ key) (value : List Char) :
    readOption (key ++ ':' :: value)
      = ((readOption key).1, .ofList (optionValue (Text.trim value))) := by
  simp only [readOption, Text.cutAt?_append hkey, Text.cutAt?_eq_none hkey, Option.getD_some,
    Option.getD_none]

end RelSchema.Models
