import RelSchema.Proofs.Naming.Pascal
import RelSchema.Proofs.Text.Class

/-!
# Names in snake case

A name of small words comes back from its form in capitals, unless two acronyms are neighbours in
it: they make one run of capitals, and such a run is one word. Still no two names of small words
have the same capitals. Those of other names tell their letters up to case, and nothing of their
underscores.
-/

namespace RelSchema.Naming

/-- A word of small letters that is no single letter. -/
def IsSmallWord (word : List Char) : Prop :=
  2 ≤ word.length ∧ ∀ c ∈ word, c.isLower = true

instance (word : List Char) : Decidable (IsSmallWord word) :=
  inferInstanceAs (Decidable (_ ∧ _))

/-- Small words with single underscores between them. -/
def IsSnakeCase (name : String) : Prop :=
  ∀ word ∈ Text.splitAt '_' name.toList, IsSmallWord word

instance (name : String) : Decidable (IsSnakeCase name) :=
  inferInstanceAs (Decidable (∀ _ ∈ _, _))

def isAcronym (word : List Char) : Bool :=
  (acronym? (.ofList word)).isSome

theorem isLower_spec {c : Char} (hc : c.isLower = true) :
    c.toNat < 128 ∧ c.isUpper = false ∧ c ≠ '_' ∧ c.toLower = c ∧ c.toUpper.isUpper = true ∧
      c.toUpper.toLower = c := by
  have hascii := toNat_lt_of_isAlphanum (isAlphanum_of_isLower hc)
  have htest := Text.of_forall_ascii (fun c => !c.isLower || (!c.isUpper && c != '_' &&
    c.toLower == c && c.toUpper.isUpper && c.toUpper.toLower == c)) (by decide +kernel) hascii
  simp only [hc, Bool.not_true, Bool.false_or, Bool.and_eq_true, Bool.not_eq_true', bne_iff_ne,
    beq_iff_eq] at htest
  exact ⟨hascii, htest.1.1.1.1, htest.1.1.1.2, htest.1.1.2, htest.1.2, htest.2⟩

theorem isUpper_spec {c : Char} (hc : c.isUpper = true) :
    c.toNat < 128 ∧ Text.isDecimal c = false ∧ c ≠ '-' := by
  have hascii := toNat_lt_of_isAlphanum (isAlphanum_of_isUpper hc)
  have htest := Text.of_forall_ascii (fun c => !c.isUpper || (!Text.isDecimal c && c != '-'))
    (by decide +kernel) hascii
  simp only [hc, Bool.not_true, Bool.false_or, Bool.and_eq_true, Bool.not_eq_true',
    bne_iff_ne] at htest
  exact ⟨hascii, htest⟩

theorem map_toLower_of_isLower {word : List Char} (hword : ∀ c ∈ word, c.isLower = true) :
    word.map Char.toLower = word := by
  rw [List.map_congr_left fun c hc => (isLower_spec (hword c hc)).2.2.2.1]
  exact List.map_id' word

theorem toList_of_acronym? {word capitals : String} (h : acronym? word = some capitals) :
    capitals.toList = word.toList.map Char.toUpper := by
  unfold acronym? at h
  split at h <;> cases h <;> decide

theorem lower_of_isSmallWord {word : List Char} (hword : IsSmallWord word) :
    Text.lower (.ofList word) = .ofList word := by
  rw [Text.lower_of_ascii fun c hc => (isLower_spec (hword.2 c hc)).1, map_toLower_of_isLower hword.2]

theorem capitalize_of_isAcronym {word : List Char} (hword : IsSmallWord word)
    (h : isAcronym word = true) : capitalize word = word.map Char.toUpper := by
  obtain ⟨capitals, hcapitals⟩ := Option.isSome_iff_exists.mp h
  have htext := toList_of_acronym? hcapitals
  rw [String.toList_ofList] at htext
  rw [← htext]
  cases word with
  | nil => exact absurd hword.1 (by decide)
  | cons c rest => rw [capitalize, lower_of_isSmallWord hword, hcapitals]

theorem capitalize_of_not_isAcronym {c : Char} {rest : List Char}
    (hword : IsSmallWord (c :: rest)) (h : isAcronym (c :: rest) = false) :
    capitalize (c :: rest) = c.toUpper :: rest := by
  have hnone : acronym? (.ofList (c :: rest)) = none := by simpa [isAcronym] using h
  have hascii := (isLower_spec (hword.2 c List.mem_cons_self)).1
  rw [capitalize, lower_of_isSmallWord hword, hnone, Text.upperChar, if_pos hascii]
  rfl

/-- A small word opens with one capital, and goes on in capitals exactly if it is an acronym. -/
theorem capitalize_spec {word : List Char} (hword : IsSmallWord word) :
    ∃ c d rest, capitalize word = c :: d :: rest ∧ c.isUpper = true ∧
      (capitalize word).map Char.toLower = word ∧
      ∀ e ∈ d :: rest, if isAcronym word then e.isUpper = true else e.isLower = true := by
  obtain ⟨a, b, tail, rfl⟩ : ∃ a b tail, word = a :: b :: tail := by
    match word, hword.1 with
    | a :: b :: tail, _ => exact ⟨a, b, tail, rfl⟩
  have hback : ∀ c ∈ a :: b :: tail, c.toUpper.isUpper = true ∧ c.toUpper.toLower = c := fun c hc =>
    (isLower_spec (hword.2 c hc)).2.2.2.2
  obtain ⟨hfirst, hrest⟩ := List.forall_mem_cons.mp hback
  cases h : isAcronym (a :: b :: tail) with
  | true =>
      rw [capitalize_of_isAcronym hword h]
      refine ⟨a.toUpper, b.toUpper, tail.map Char.toUpper, rfl, hfirst.1, ?_, ?_⟩
      · rw [List.map_map]
        exact (List.map_congr_left fun c hc => (hback c hc).2).trans (List.map_id _)
      · intro e he
        obtain ⟨c, hc, rfl⟩ := List.mem_map.mp (show e ∈ (b :: tail).map Char.toUpper from he)
        exact (hrest c hc).1
  | false =>
      have hlower := (List.forall_mem_cons.mp hword.2).2
      rw [capitalize_of_not_isAcronym hword h]
      refine ⟨a.toUpper, b, tail, rfl, hfirst.1, ?_, hlower⟩
      rw [List.map_cons, hfirst.2, map_toLower_of_isLower hlower]

def Ends (acronym : Bool) (c : Char) : Prop :=
  if acronym then c.isUpper = true else c.isLower = true

theorem exists_separateWords_lower {b : Char} {run : List Char} (hb : b.isLower = true)
    (hrun : ∀ c ∈ run, c.isLower = true) (rest : List Char) :
    ∃ e, e.isLower = true ∧
      separateWords (some b) (run ++ rest) = run ++ separateWords (some e) rest := by
  induction run generalizing b with
  | nil => exact ⟨b, hb, rfl⟩
  | cons c run ih =>
      obtain ⟨hc, hrun⟩ := List.forall_mem_cons.mp hrun
      obtain ⟨e, he, hseparate⟩ := ih hc hrun
      refine ⟨e, he, ?_⟩
      rw [List.cons_append, separateWords, startsWord, (isLower_spec hc).2.1, hseparate]
      rfl

theorem exists_separateWords_upper {b : Char} {run : List Char} (hb : b.isUpper = true)
    (hrun : ∀ c ∈ run, c.isUpper = true) {rest : List Char}
    (hrest : ∀ c ∈ rest.head?, c.isLower = false) :
    ∃ e, e.isUpper = true ∧
      separateWords (some b) (run ++ rest) = run ++ separateWords (some e) rest := by
  induction run generalizing b with
  | nil => exact ⟨b, hb, rfl⟩
  | cons c run ih =>
      obtain ⟨hc, hrun⟩ := List.forall_mem_cons.mp hrun
      obtain ⟨e, he, hseparate⟩ := ih hc hrun
      have hafter : ((run ++ rest).head?).any Char.isLower = false := by
        cases run with
        | nil =>
            cases hhead : rest.head? with
            | none => rw [List.nil_append, hhead]; rfl
            | some d => rw [List.nil_append, hhead]; exact hrest d hhead
        | cons d run => exact Text.isLower_of_isUpper (hrun d List.mem_cons_self)
      refine ⟨e, he, ?_⟩
      rw [List.cons_append, separateWords, startsWord, Text.isLower_of_isUpper hb,
        (isUpper_spec hb).2.1, hafter, hseparate]
      simp

theorem separateWords_cons (before : Option Char) (c : Char) (rest : List Char) :
    separateWords before (c :: rest) = (if startsWord before c rest.head? then ['_'] else []) ++
      c :: separateWords (some c) rest := by
  rw [separateWords]
  split_ifs <;> rfl

/-- Whether the capitals of a word start a word behind a character. -/
def startsCapitals (before : Option Char) (acronym : Bool) : Bool :=
  before.any fun b => b.isLower || Text.isDecimal b || (b.isUpper && !acronym)

/-- Inside the capitals of a small word no word starts. -/
theorem exists_separateWords_capitalize {word : List Char} (hword : IsSmallWord word)
    {rest : List Char} (hrest : ∀ c ∈ rest.head?, c.isLower = false) :
    ∃ e, Ends (isAcronym word) e ∧ ∀ before, separateWords before (capitalize word ++ rest)
      = (if startsCapitals before (isAcronym word) then ['_'] else []) ++
        (capitalize word ++ separateWords (some e) rest) := by
  obtain ⟨c, d, tail, hcapitals, hc, -, htail⟩ := capitalize_spec hword
  have hstart : ∀ before, startsWord before c (some d) = startsCapitals before (!d.isLower) := by
    intro before
    cases before <;> simp [startsWord, startsCapitals, hc]
  have hbehind : ∃ e, Ends (isAcronym word) e ∧ isAcronym word = (!d.isLower) ∧
      separateWords (some c) (d :: tail ++ rest) = d :: tail ++ separateWords (some e) rest := by
    cases hacronym : isAcronym word with
    | true =>
        have hupper : ∀ e ∈ d :: tail, e.isUpper = true := by simpa [hacronym] using htail
        obtain ⟨e, he, hseparate⟩ := exists_separateWords_upper hc hupper hrest
        refine ⟨e, he, ?_, hseparate⟩
        rw [Text.isLower_of_isUpper (hupper d List.mem_cons_self)]
        rfl
    | false =>
        have hlower : ∀ e ∈ d :: tail, e.isLower = true := by simpa [hacronym] using htail
        obtain ⟨hd, hlower⟩ := List.forall_mem_cons.mp hlower
        obtain ⟨e, he, hseparate⟩ := exists_separateWords_lower hd hlower rest
        refine ⟨e, he, by rw [hd]; rfl, ?_⟩
        rw [List.cons_append, separateWords_cons, startsWord, (isLower_spec hd).2.1, hseparate]
        rfl
  obtain ⟨e, he, hacronym, hseparate⟩ := hbehind
  refine ⟨e, he, fun before => ?_⟩
  rw [hcapitals, List.cons_append, separateWords_cons, hseparate, List.cons_append,
    List.head?_cons, hstart, ← hacronym]
  rfl

/-- Behind the end of a word the capitals of another one start a word, unless both are acronyms. -/
theorem startsCapitals_of_ends {acronym : Bool} {e : Char} (he : Ends acronym e) (next : Bool) :
    startsCapitals (some e) next = !(acronym && next) := by
  cases acronym with
  | true =>
      have hupper : e.isUpper = true := he
      simp [startsCapitals, hupper, Text.isLower_of_isUpper hupper, (isUpper_spec hupper).2.1]
  | false =>
      have hlower : e.isLower = true := he
      simp [startsCapitals, hlower]

/-- The words behind another one, each behind an underscore unless it is an acronym behind an
acronym. -/
def wordsBehind (acronym : Bool) : List (List Char) → List Char
  | [] => []
  | word :: words =>
    (if acronym && isAcronym word then [] else ['_']) ++
      (word ++ wordsBehind (isAcronym word) words)

theorem map_separateWords_behind {words : List (List Char)}
    (hwords : ∀ word ∈ words, IsSmallWord word) {acronym : Bool} {e : Char} (he : Ends acronym e) :
    (separateWords (some e) (words.flatMap capitalize)).map Char.toLower
      = wordsBehind acronym words := by
  induction words generalizing acronym e with
  | nil => rfl
  | cons word words ih =>
      obtain ⟨hword, hrest⟩ := List.forall_mem_cons.mp hwords
      obtain ⟨c, d, tail, -, -, hback, -⟩ := capitalize_spec hword
      obtain ⟨f, hf, hseparate⟩ :=
        exists_separateWords_capitalize hword fun c hc => isLower_head_flatMap_capitalize hc
      rw [List.flatMap_cons, hseparate, startsCapitals_of_ends he, wordsBehind, List.map_append,
        List.map_append, hback, ih hrest hf]
      cases acronym && isAcronym word <;> rfl

/-- The words of a name are found again in its capitals, up to the underscores between acronyms. -/
theorem map_separateWords {word : List Char} {words : List (List Char)}
    (hwords : ∀ part ∈ word :: words, IsSmallWord part) :
    (separateWords none ((word :: words).flatMap capitalize)).map Char.toLower
      = word ++ wordsBehind (isAcronym word) words := by
  obtain ⟨hword, hrest⟩ := List.forall_mem_cons.mp hwords
  obtain ⟨c, d, tail, -, -, hback, -⟩ := capitalize_spec hword
  obtain ⟨e, he, hseparate⟩ :=
    exists_separateWords_capitalize hword fun c hc => isLower_head_flatMap_capitalize hc
  rw [List.flatMap_cons, hseparate, List.map_append, List.map_append, hback,
    map_separateWords_behind hrest he]
  rfl

/-- Whether no two neighbours among the words of a name are acronyms. -/
def AcronymsApart (name : String) : Prop :=
  (Text.splitAt '_' name.toList).IsChain fun word next =>
    ¬ (isAcronym word = true ∧ isAcronym next = true)

instance (name : String) : Decidable (AcronymsApart name) :=
  inferInstanceAs (Decidable (List.IsChain _ _))

theorem mem_separateWords {before : Option Char} {s : List Char} {c : Char}
    (hc : c ∈ separateWords before s) : c = '_' ∨ c ∈ s := by
  induction s generalizing before with
  | nil => cases hc
  | cons d s ih =>
      rw [separateWords_cons, List.mem_append, List.mem_cons] at hc
      rcases hc with hmark | rfl | hc
      · split_ifs at hmark
        · exact Or.inl (List.mem_singleton.mp hmark)
        · cases hmark
      · exact Or.inr List.mem_cons_self
      · exact (ih hc).imp_right (List.mem_cons_of_mem d)

theorem toSnakeCase_of_letters {name : String}
    (hname : ∀ c ∈ name.toList, c.isUpper = true ∨ c.isLower = true) :
    toSnakeCase name = .ofList ((separateWords none name.toList).map Char.toLower) := by
  have hletter : ∀ c : Char, c.isUpper = true ∨ c.isLower = true → c.toNat < 128 ∧ c ≠ '-' := by
    intro c hc
    rcases hc with hupper | hlower
    · exact ⟨(isUpper_spec hupper).1, (isUpper_spec hupper).2.2⟩
    · refine ⟨(isLower_spec hlower).1, ?_⟩
      rintro rfl
      exact absurd hlower (by decide)
  have hall : ∀ c ∈ separateWords none name.toList, c.toNat < 128 ∧ c ≠ '-' := by
    intro c hc
    rcases mem_separateWords hc with rfl | hc
    · decide
    · exact hletter c (hname c hc)
  have hdash : (separateWords none name.toList).map (fun c => if c == '-' then '_' else c)
      = separateWords none name.toList :=
    (List.map_congr_left fun c hc => if_neg (by simpa using (hall c hc).2)).trans (List.map_id _)
  simp only [toSnakeCase]
  rw [hdash, Text.lower_of_ascii fun c hc => (hall c hc).1]

theorem isLetter_of_mem_toPascalCase {name : String} (hname : IsSnakeCase name) :
    ∀ c ∈ (toPascalCase name).toList, c.isUpper = true ∨ c.isLower = true := by
  intro c hc
  rw [toPascalCase, String.toList_ofList] at hc
  obtain ⟨word, hword, hc⟩ := List.mem_flatMap.mp hc
  obtain ⟨a, b, tail, hcapitals, ha, -, htail⟩ := capitalize_spec (hname word hword)
  rw [hcapitals] at hc
  rcases List.mem_cons.mp hc with rfl | hc
  · exact Or.inl ha
  · have hletter := htail c hc
    split_ifs at hletter
    · exact Or.inl hletter
    · exact Or.inr hletter

theorem toSnakeCase_toPascalCase {name : String} (hname : IsSnakeCase name) {word : List Char}
    {words : List (List Char)} (hsplit : Text.splitAt '_' name.toList = word :: words) :
    toSnakeCase (toPascalCase name) = .ofList (word ++ wordsBehind (isAcronym word) words) := by
  have hcapitals : (toPascalCase name).toList = (word :: words).flatMap capitalize := by
    rw [toPascalCase, String.toList_ofList, hsplit]
  rw [toSnakeCase_of_letters (isLetter_of_mem_toPascalCase hname), hcapitals,
    map_separateWords (hsplit ▸ hname)]

theorem wordsBehind_eq_iff {word : List Char} {words : List (List Char)}
    (hwords : ∀ part ∈ words, IsSmallWord part) :
    wordsBehind (isAcronym word) words = words.flatMap ('_' :: ·) ↔ (word :: words).IsChain
      fun word next => ¬ (isAcronym word = true ∧ isAcronym next = true) := by
  induction words generalizing word with
  | nil => simp [wordsBehind]
  | cons next words ih =>
      obtain ⟨hnext, hrest⟩ := List.forall_mem_cons.mp hwords
      rw [List.isChain_cons_cons, ← ih hrest, wordsBehind, List.flatMap_cons, List.cons_append]
      by_cases hboth : isAcronym word = true ∧ isAcronym next = true
      · rw [hboth.1, hboth.2]
        obtain ⟨c, rest, rfl⟩ : ∃ c rest, next = c :: rest :=
          List.exists_cons_of_ne_nil (by rintro rfl; exact absurd hnext.1 (by decide))
        have hc := (isLower_spec (hnext.2 c List.mem_cons_self)).2.2.1
        simp [hc]
      · have hmark : (isAcronym word && isAcronym next) = false := by
          simpa [Bool.and_eq_false_iff, imp_iff_not_or] using hboth
        simp [hmark, hboth]

theorem toSnakeCase_toPascalCase_iff {name : String} (hname : IsSnakeCase name) :
    toSnakeCase (toPascalCase name) = name ↔ AcronymsApart name := by
  obtain ⟨word, words, hsplit⟩ : ∃ word words, Text.splitAt '_' name.toList = word :: words :=
    List.exists_cons_of_ne_nil (Text.splitWhere_ne_nil _ _)
  have hwords : ∀ part ∈ words, IsSmallWord part := fun part hpart =>
    hname part (hsplit ▸ List.mem_cons_of_mem word hpart)
  have htext : name = .ofList (word ++ words.flatMap ('_' :: ·)) := by
    rw [← Text.eq_append_of_splitAt hsplit, String.ofList_toList]
  rw [toSnakeCase_toPascalCase hname hsplit]
  calc String.ofList (word ++ wordsBehind (isAcronym word) words) = name
      ↔ word ++ wordsBehind (isAcronym word) words = word ++ words.flatMap ('_' :: ·) := by
        conv_lhs => rw [htext]
        exact String.ofList_inj
    _ ↔ wordsBehind (isAcronym word) words = words.flatMap ('_' :: ·) := 
        List.append_right_inj word
    _ ↔ AcronymsApart name := by
        rw [wordsBehind_eq_iff hwords, AcronymsApart, hsplit]

def joined (name : String) : String :=
  .ofList (name.toList.filter (· != '_'))

theorem letters_of_acronym? {word capitals : String} (h : acronym? word = some capitals) :
    ∀ c ∈ word.toList, c.isLower = true ∧ c ≠ 'k' := by
  unfold acronym? at h
  split at h <;> cases h <;> decide

theorem ascii_of_acronym? {word : List Char} {capitals : String}
    (h : acronym? (Text.lower (.ofList word)) = some capitals) : ∀ c ∈ word, c.toNat < 128 := by
  intro c hc
  by_contra hascii
  obtain ⟨d, hd, hlower⟩ := Text.exists_mem_lower hc (Nat.le_of_not_lt hascii)
  obtain ⟨hletter, hne⟩ := letters_of_acronym? h d hd
  rcases hlower with hlower | rfl
  · rw [hletter] at hlower
    cases hlower
  · exact hne rfl

theorem flatMap_upperChar_of_ascii {s : List Char} (hs : ∀ c ∈ s, c.toNat < 128) :
    s.flatMap Text.upperChar = s.map Char.toUpper := by
  have hupper : ∀ c ∈ s, Text.upperChar c = [c.toUpper] := fun c hc => if_pos (hs c hc)
  rw [List.flatMap_congr hupper]
  exact List.flatMap_pure_eq_map Char.toUpper s

/-- A word and its capitals are the same in upper case. -/
theorem flatMap_upperChar_capitalize (word : List Char) :
    (capitalize word).flatMap Text.upperChar = word.flatMap Text.upperChar := by
  cases word with
  | nil => rfl
  | cons c rest =>
      cases hacronym : acronym? (Text.lower (.ofList (c :: rest))) with
      | none =>
          rw [capitalize, hacronym, List.flatMap_append, Text.flatMap_upperChar_upperChar]
          rfl
      | some capitals =>
          have hascii := ascii_of_acronym? hacronym
          have hcapitals := toList_of_acronym? hacronym
          have hback : ∀ d ∈ c :: rest, d.toLower.toUpper = d.toUpper ∧
              d.toLower.toUpper.toUpper = d.toUpper ∧ d.toLower.toUpper.toNat < 128 := by
            intro d hd
            have htest := Text.of_forall_ascii (fun d => d.toLower.toUpper == d.toUpper &&
              d.toLower.toUpper.toUpper == d.toUpper && decide (d.toLower.toUpper.toNat < 128))
              (by decide +kernel) (hascii d hd)
            simpa [and_assoc] using htest
          rw [Text.lower_of_ascii hascii, String.toList_ofList, List.map_map] at hcapitals
          have hcapital : ∀ d ∈ capitals.toList, d.toNat < 128 := by
            rw [hcapitals]
            intro e he
            obtain ⟨d, hd, rfl⟩ := List.mem_map.mp he
            exact (hback d hd).2.2
          rw [capitalize, hacronym, flatMap_upperChar_of_ascii hascii,
            flatMap_upperChar_of_ascii hcapital, hcapitals, List.map_map]
          exact List.map_congr_left fun d hd => (hback d hd).2.1

/-- A name in capitals has the letters of the name. -/
theorem upper_toPascalCase (name : String) :
    Text.upper (toPascalCase name) = Text.upper (joined name) := by
  have hwords : ∀ words : List (List Char), (words.flatMap capitalize).flatMap Text.upperChar
      = words.flatten.flatMap Text.upperChar := by
    intro words
    induction words with
    | nil => rfl
    | cons word words ih =>
        rw [List.flatMap_cons, List.flatMap_append, flatMap_upperChar_capitalize, ih,
          List.flatten_cons, List.flatMap_append]
  have hflatten : (Text.splitAt '_' name.toList).flatten = name.toList.filter (· != '_') :=
    Text.flatten_splitWhere _ _
  rw [Text.upper, Text.upper, toPascalCase, joined, String.toList_ofList, String.toList_ofList,
    hwords, hflatten]

/-! ### Names of small words

Two names of the same form are compared word by word. The second character tells whether the first
word is an acronym. Of two acronyms one is the start of the other only if it lacks an `s` at the
end, and then nothing that follows the one can follow the other.
-/

/-- The words that are written in capitals throughout. -/
def acronyms : List (List Char) :=
  ["id", "url", "api", "ip", "http", "https", "sql", "ssh", "uuid", "uri", "html", "css", "json",
    "xml", "cpu", "gpu"].map String.toList

theorem mem_acronyms {word : List Char} (h : isAcronym word = true) : word ∈ acronyms := by
  unfold isAcronym at h
  rw [← String.toList_ofList (l := word)]
  generalize String.ofList word = text at h
  unfold acronym? at h
  split at h
  case h_17 => cases h
  all_goals decide

/-- An acronym at the start of another one lacks a plural `s`. -/
theorem eq_append_of_acronym {word more : List Char} (hword : word ∈ acronyms)
    (hmore : word ++ more ∈ acronyms) : more = [] ∨ more = ['s'] := by
  have hall : ∀ word ∈ acronyms, ∀ other ∈ acronyms, word <+: other →
      other.drop word.length = [] ∨ other.drop word.length = ['s'] := by decide
  simpa using hall word hword _ hmore (List.prefix_append word more)

/-- No acronym starts with what stands behind an `s` at the start of another one. -/
theorem acronym_behind_s {word : List Char} (hword : 's' :: word ∈ acronyms) :
    2 ≤ word.length ∧ ∀ other ∈ acronyms, word.take 2 ≠ other.take 2 := by
  have hall : ∀ acronym ∈ acronyms, acronym.head? = some 's' →
      3 ≤ acronym.length ∧ ∀ other ∈ acronyms, (acronym.drop 1).take 2 ≠ other.take 2 := by decide
  obtain ⟨hlength, hne⟩ := hall _ hword rfl
  exact ⟨Nat.le_of_succ_le_succ hlength, hne⟩

section Injective

variable {word other : List Char} {words others : List (List Char)}

theorem of_capitalize_eq (hword : IsSmallWord word) {c d : Char} {tail : List Char}
    (h : capitalize word = c :: d :: tail) :
    word = c.toLower :: d.toLower :: tail.map Char.toLower ∧
      ∀ e ∈ d :: tail, if isAcronym word then e.isUpper = true else e.isLower = true := by
  obtain ⟨c', d', tail', hcapitals, -, hback, htail⟩ := capitalize_spec hword
  rw [h, List.cons.injEq, List.cons.injEq] at hcapitals
  obtain ⟨rfl, rfl, rfl⟩ := hcapitals
  rw [h] at hback
  exact ⟨hback.symm, htail⟩

theorem capitalize_injective (hword : IsSmallWord word) (hother : IsSmallWord other)
    (h : capitalize word = capitalize other) : word = other := by
  obtain ⟨-, -, -, -, -, hback, -⟩ := capitalize_spec hword
  obtain ⟨-, -, -, -, -, hback', -⟩ := capitalize_spec hother
  rw [← hback, ← hback', h]

theorem isAcronym_eq_isUpper (hword : IsSmallWord word) {c d : Char} {tail : List Char}
    (h : capitalize word = c :: d :: tail) : isAcronym word = d.isUpper := by
  have hd := (of_capitalize_eq hword h).2 d List.mem_cons_self
  cases hacronym : isAcronym word with
  | true =>
      rw [hacronym, if_pos rfl] at hd
      exact hd.symm
  | false =>
      rw [hacronym, if_neg Bool.false_ne_true] at hd
      exact (isLower_spec hd).2.1.symm

/-- A word that is no acronym ends where the small letters end. -/
theorem capitalize_eq_of_small (hword : IsSmallWord word) (hother : IsSmallWord other)
    (hne : isAcronym word = false) (hne' : isAcronym other = false) {rest rest' : List Char}
    (hrest : ∀ c ∈ rest.head?, c.isLower = false) (hrest' : ∀ c ∈ rest'.head?, c.isLower = false)
    (h : capitalize word ++ rest = capitalize other ++ rest') :
    capitalize word = capitalize other := by
  obtain ⟨c, d, tail, hcapitals, -, -, htail⟩ := capitalize_spec hword
  obtain ⟨c', d', tail', hcapitals', -, -, htail'⟩ := capitalize_spec hother
  have hrun : ∀ e ∈ d :: tail, e.isLower = true := by simpa [hne] using htail
  have hrun' : ∀ e ∈ d' :: tail', e.isLower = true := by simpa [hne'] using htail'
  rw [hcapitals, hcapitals'] at h
  obtain ⟨rfl, hbehind⟩ : c = c' ∧ d :: tail ++ rest = d' :: tail' ++ rest' := List.cons.inj h
  have htake := congrArg (List.takeWhile Char.isLower) hbehind
  rw [Text.takeWhile_append_eq hrun hrest, Text.takeWhile_append_eq hrun' hrest'] at htake
  rw [hcapitals, hcapitals', htake]

theorem exists_flatMap_capitalize (hwords : ∀ word ∈ words, IsSmallWord word) {c : Char}
    {rest : List Char} (h : words.flatMap capitalize = c :: rest) :
    ∃ d tail word more, words = word :: more ∧ capitalize word = c :: d :: tail ∧
      rest = d :: tail ++ more.flatMap capitalize := by
  cases words with
  | nil => cases h
  | cons word more =>
      obtain ⟨c', d, tail, hcapitals, -⟩ := capitalize_spec (hwords word List.mem_cons_self)
      rw [List.flatMap_cons, hcapitals, List.cons_append, List.cons.injEq] at h
      obtain ⟨rfl, rfl⟩ := h
      exact ⟨d, tail, word, more, rfl, hcapitals, rfl⟩

/-- Words in capitals do not start with the plural `s` of other words in capitals. -/
theorem flatMap_capitalize_ne (hwords : ∀ word ∈ words, IsSmallWord word)
    (hothers : ∀ other ∈ others, IsSmallWord other) :
    words.flatMap capitalize ≠ 'S' :: others.flatMap capitalize := by
  intro h
  obtain ⟨d, tail, word, more, rfl, hcapitals, hbehind⟩ := exists_flatMap_capitalize hwords h
  obtain ⟨e, tail', other, more', rfl, hcapitals', hbehind'⟩ :=
    exists_flatMap_capitalize hothers hbehind
  have hword := hwords word List.mem_cons_self
  have hother := hothers other List.mem_cons_self
  -- the second character opens a word, so the first word is an acronym
  have hacronym : isAcronym word = true := by
    have hhead : d ∈ (capitalize other).head? := by
      rw [hcapitals']
      rfl
    have hd := isLower_head_capitalize hhead
    have hspec := (of_capitalize_eq hword hcapitals).2 d List.mem_cons_self
    cases hacronym : isAcronym word with
    | true => rfl
    | false =>
        rw [hacronym, if_neg Bool.false_ne_true, hd] at hspec
        cases hspec
  obtain ⟨hback, hupper⟩ := of_capitalize_eq hword hcapitals
  have hmem := mem_acronyms hacronym
  rw [hback] at hmem
  obtain ⟨hlength, hne⟩ := acronym_behind_s hmem
  obtain ⟨third, tail, rfl⟩ : ∃ third rest, tail = third :: rest :=
    List.exists_cons_of_ne_nil (by rintro rfl; exact Nat.not_succ_le_self 1 hlength)
  obtain ⟨rfl, -⟩ := List.cons.inj hbehind'
  have hthird : third.isUpper = true := by
    have hspec := hupper third (List.mem_cons_of_mem d List.mem_cons_self)
    rwa [hacronym, if_pos rfl] at hspec
  have hmem' := mem_acronyms ((isAcronym_eq_isUpper hother hcapitals').trans hthird)
  rw [(of_capitalize_eq hother hcapitals').1] at hmem'
  exact hne _ hmem' rfl

/-- An acronym ends where another one with the same start ends. -/
theorem capitalize_eq_of_acronym (hwords : ∀ word ∈ words, IsSmallWord word)
    (hothers : ∀ other ∈ others, IsSmallWord other) (hword : IsSmallWord word)
    (hother : IsSmallWord other) (hacronym : isAcronym word = true)
    (hacronym' : isAcronym other = true) {more : List Char}
    (hmore : capitalize other = capitalize word ++ more)
    (hbehind : words.flatMap capitalize = more ++ others.flatMap capitalize) :
    capitalize word = capitalize other := by
  obtain ⟨-, -, -, -, -, hback, -⟩ := capitalize_spec hword
  obtain ⟨c, d, tail, hcapitals, hc, hback', hupper⟩ := capitalize_spec hother
  have hlower : other = word ++ more.map Char.toLower := by
    rw [← hback', hmore, List.map_append, hback]
  have hmem := mem_acronyms hacronym'
  rw [hlower] at hmem
  rcases eq_append_of_acronym (mem_acronyms hacronym) hmem with hnil | hplural
  · rw [hmore, List.map_eq_nil_iff.mp hnil, List.append_nil]
  · obtain ⟨s, rest, rfl, hs, hrest⟩ := List.map_eq_cons_iff.mp hplural
    rw [List.map_eq_nil_iff.mp hrest] at hmore hbehind
    have hmem : s ∈ c :: d :: tail := by
      rw [← hcapitals, hmore]
      exact List.mem_append_right _ List.mem_cons_self
    have hscapital : s.isUpper = true := by
      rw [hacronym'] at hupper
      rcases List.mem_cons.mp hmem with rfl | hmem
      · exact hc
      · exact hupper s hmem
    have hs' : s = 'S' := by
      have htest := Text.of_forall_ascii
        (fun s => !s.isUpper || s.toLower != 's' || s == 'S') (by decide +kernel)
        (isUpper_spec hscapital).1
      simpa [hscapital, hs] using htest
    rw [hs'] at hbehind
    exact absurd hbehind (flatMap_capitalize_ne hwords hothers)

/-- Two sequences of words with the same capitals open with the same word. -/
theorem capitalize_eq_of_append (hwords : ∀ word ∈ words, IsSmallWord word)
    (hothers : ∀ other ∈ others, IsSmallWord other) (hword : IsSmallWord word)
    (hother : IsSmallWord other)
    (h : capitalize word ++ words.flatMap capitalize
      = capitalize other ++ others.flatMap capitalize) : capitalize word = capitalize other := by
  have hsame : isAcronym word = isAcronym other := by
    obtain ⟨c, d, tail, hcapitals, -⟩ := capitalize_spec hword
    obtain ⟨c', d', tail', hcapitals', -⟩ := capitalize_spec hother
    rw [isAcronym_eq_isUpper hword hcapitals, isAcronym_eq_isUpper hother hcapitals']
    rw [hcapitals, hcapitals'] at h
    exact congrArg Char.isUpper (List.cons.inj (List.cons.inj h).2).1
  cases hacronym : isAcronym word with
  | false =>
      exact capitalize_eq_of_small hword hother hacronym (hsame ▸ hacronym)
        (fun c hc => isLower_head_flatMap_capitalize hc)
        (fun c hc => isLower_head_flatMap_capitalize hc) h
  | true =>
      have hacronym' : isAcronym other = true := hsame ▸ hacronym
      rcases List.append_eq_append_iff.mp h with ⟨more, hmore, hbehind⟩ | ⟨more, hmore, hbehind⟩
      · exact capitalize_eq_of_acronym hwords hothers hword hother hacronym hacronym' hmore hbehind
      · exact (capitalize_eq_of_acronym hothers hwords hother hword hacronym' hacronym hmore
          hbehind).symm

theorem flatMap_capitalize_injective (hwords : ∀ word ∈ words, IsSmallWord word)
    (hothers : ∀ other ∈ others, IsSmallWord other)
    (h : words.flatMap capitalize = others.flatMap capitalize) : words = others := by
  have hne : ∀ {word : List Char} {more : List (List Char)}, IsSmallWord word →
      (word :: more).flatMap capitalize ≠ [] := by
    intro word more hword hnil
    obtain ⟨c, d, tail, hcapitals, -⟩ := capitalize_spec hword
    rw [List.flatMap_cons, hcapitals] at hnil
    cases hnil
  induction words generalizing others with
  | nil =>
      cases others with
      | nil => rfl
      | cons other others => exact absurd h.symm (hne (hothers other List.mem_cons_self))
  | cons word words ih =>
      obtain ⟨hword, hwords⟩ := List.forall_mem_cons.mp hwords
      cases others with
      | nil => exact absurd h (hne hword)
      | cons other others =>
          obtain ⟨hother, hothers⟩ := List.forall_mem_cons.mp hothers
          rw [List.flatMap_cons, List.flatMap_cons] at h
          have hsame := capitalize_eq_of_append hwords hothers hword hother h
          rw [hsame, List.append_right_inj] at h
          rw [capitalize_injective hword hother hsame, ih hwords hothers h]

end Injective

/-- No two names of small words have the same capitals. -/
theorem toPascalCase_injective {name other : String} (hname : IsSnakeCase name)
    (hother : IsSnakeCase other) (h : toPascalCase name = toPascalCase other) : name = other := by
  rw [toPascalCase, toPascalCase, String.ofList_inj] at h
  have hsplit := flatMap_capitalize_injective hname hother h
  obtain ⟨word, words, hwords⟩ : ∃ word words, Text.splitAt '_' name.toList = word :: words :=
    List.exists_cons_of_ne_nil (Text.splitWhere_ne_nil _ _)
  have htext := Text.eq_append_of_splitAt hwords
  rw [hsplit] at hwords
  exact String.toList_inj.mp (htext.trans (Text.eq_append_of_splitAt hwords).symm)

end RelSchema.Naming
