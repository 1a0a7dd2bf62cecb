import RelSchema.Text.Class

/-!
Trimming, cutting and joining texts, and their lines.
-/
namespace RelSchema.Text

/-- The list without its last elements that satisfy the test. -/
def dropEndWhile (p : α → Bool) (s : List α) : List α :=
  (s.reverse.dropWhile p).reverse

def trimLeft (s : List Char) : List Char :=
  s.dropWhile isBlank

def trimRight (s : List Char) : List Char :=
  dropEndWhile isBlank s

def trim (s : List Char) : List Char :=
  trimRight (trimLeft s)

def trimSet (set : List Char) (s : List Char) : List Char :=
  dropEndWhile set.contains (s.dropWhile set.contains)

/-- The parts before and after the first element that satisfies the test. -/
def cutWhere? (p : α → Bool) : List α → Option (List α × List α)
  | [] => none
  | c :: rest =>
    if p c then some ([], rest) else (cutWhere? p rest).map fun cut => (c :: cut.1, cut.2)

theorem length_snd_lt_of_cutWhere? {p : α → Bool} {s : List α} {cut : List α × List α}
    (h : cutWhere? p s = some cut) : cut.2.length < s.length := by
  induction s generalizing cut with
  | nil => simp [cutWhere?] at h
  | cons c rest ih =>
    simp only [cutWhere?] at h
    split at h
    · cases h
      simp
    · obtain ⟨found, hfound, hcut⟩ := Option.map_eq_some_iff.1 h
      subst hcut
      have := ih hfound
      simp only [List.length_cons]
      omega

def cutAt? (mark : Char) (s : List Char) : Option (List Char × List Char) :=
  cutWhere? (· == mark) s

/-- The parts before and after the last occurrence of the mark. -/
def cutAtLast? (mark : Char) (s : List Char) : Option (List Char × List Char) :=
  (cutAt? mark s.reverse).map fun cut => (cut.2.reverse, cut.1.reverse)

/-- The parts between the elements that satisfy the test, empty ones included. -/
def splitWhere (p : α → Bool) : List α → List (List α)
  | [] => [[]]
  | c :: rest =>
    match splitWhere p rest with
    | [] => [[c]]
    | part :: parts => if p c then [] :: part :: parts else (c :: part) :: parts

def splitAt (mark : Char) (s : List Char) : List (List Char) :=
  splitWhere (· == mark) s

/-- The maximal runs of characters that are not blank. -/
def words (s : List Char) : List (List Char) :=
  (splitWhere isBlank s).filter (!·.isEmpty)

/-- The rest of the text after the given start. -/
def dropPrefix? [BEq α] : List α → List α → Option (List α)
  | [], s => some s
  | _ :: _, [] => none
  | a :: start, c :: s => if a == c then dropPrefix? start s else none

def occursIn (pattern : List Char) : List Char → Bool
  | [] => pattern.isEmpty
  | c :: rest => pattern.isPrefixOf (c :: rest) || occursIn pattern rest

def dropSuffix? (ending s : List Char) : Option (List Char) :=
  (dropPrefix? ending.reverse s.reverse).map List.reverse

/-- The text with every occurrence of the non-empty pattern replaced, from the left; `skip` counts
the characters of the current occurrence that are still to be passed. -/
def replaceFrom (pattern image : List Char) : Nat → List Char → List Char
  | _, [] => []
  | skip + 1, _ :: rest => replaceFrom pattern image skip rest
  | 0, c :: rest =>
    if pattern.isPrefixOf (c :: rest) then
      image ++ replaceFrom pattern image (pattern.length - 1) rest
    else c :: replaceFrom pattern image 0 rest

def replaceAll (pattern image : List Char) (s : List Char) : List Char :=
  replaceFrom pattern image 0 s

/-- The texts with a separator between each two of them. -/
def joinWith (separator : String) (parts : List String) : String :=
  separator.intercalate parts

/-- The lines of a text after the reversed start `line` of the current one. A carriage return and a
line feed together end one line, and the end of the text opens no empty line. -/
def linesAfter (line : List Char) : List Char → List (List Char)
  | [] => if line.isEmpty then [] else [line.reverse]
  | '\r' :: '\n' :: rest => line.reverse :: linesAfter [] rest
  | c :: rest =>
    if isLineBreak c then line.reverse :: linesAfter [] rest else linesAfter (c :: line) rest

def lines (s : List Char) : List (List Char) :=
  linesAfter [] s

/-- The text with every carriage return, alone or before a line feed, turned into a line feed. -/
def normalizeLineEnds : List Char → List Char
  | [] => []
  | '\r' :: '\n' :: rest => '\n' :: normalizeLineEnds rest
  | c :: rest => (if c == '\r' then '\n' else c) :: normalizeLineEnds rest

end RelSchema.Text
