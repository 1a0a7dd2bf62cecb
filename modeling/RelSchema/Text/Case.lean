import RelSchema.Text.CaseTable

/-!
Upper case, lower case and caseless comparison of whole texts.
-/
namespace RelSchema.Text

def CaseRun.image? (run : CaseRun) (code : Nat) : Option Nat :=
  if run.first ≤ code && code ≤ run.last && (code - run.first) % run.step == 0 then
    some (code + run.shift).toNat
  else none

/-- The image of one character under a mapping given by its runs and expansions. -/
def mapCase (runs : List CaseRun) (expansions : List (Char × String)) (c : Char) : List Char :=
  match expansions.lookup c with
  | some image => image.toList
  | none => [((runs.findSome? (·.image? c.toNat)).map Char.ofNat).getD c]

def upperChar (c : Char) : List Char :=
  if c.toNat < 128 then [c.toUpper] else mapCase upperRuns upperExpansions c

def lowerChar (c : Char) : List Char :=
  if c.toNat < 128 then [c.toLower] else mapCase lowerRuns lowerExpansions c

def foldChar (c : Char) : List Char :=
  if c.toNat < 128 then [c.toLower] else mapCase foldRuns foldExpansions c

/-- Whether the nearest character that is not looked through has a case. -/
def nextIsCased (s : List Char) : Bool :=
  match s.dropWhile caseIgnorableRanges.contains with
  | [] => false
  | c :: _ => casedRanges.contains c

/-- Lower case after the reversed text `before`: a sigma that ends a word has a form of its own. -/
def lowerAfter (before : List Char) : List Char → List Char
  | [] => []
  | c :: rest =>
    let image :=
      if c == 'Σ' then
        if nextIsCased before && !nextIsCased rest then ['ς'] else ['σ']
      else lowerChar c
    image ++ lowerAfter (c :: before) rest

def upper (s : String) : String :=
  .ofList (s.toList.flatMap upperChar)

def lower (s : String) : String :=
  .ofList (lowerAfter [] s.toList)

/-- The folded text: two texts are the same up to case when their folded texts are equal. -/
def fold (s : String) : String :=
  .ofList (s.toList.flatMap foldChar)

/-- Equality up to case. -/
def sameFold (s t : String) : Bool :=
  fold s == fold t

/-- Whether `c` is the letter `letter` of the English alphabet in either case, or one of the four
other characters whose case mapping leads to such a letter. -/
def isLetter (letter c : Char) : Bool :=
  c.toLower == letter || (letter == 'i' && (c == '\u0130' || c == '\u0131')) ||
    (letter == 's' && c == '\u017f') || (letter == 'k' && c == '\u212a')

/-- The rest of the text after the keyword, whose letters are given in lower case. -/
def dropKeyword? : List Char → List Char → Option (List Char)
  | [], s => some s
  | _ :: _, [] => none
  | letter :: word, c :: s => if isLetter letter c then dropKeyword? word s else none

end RelSchema.Text
