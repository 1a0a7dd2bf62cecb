import RelSchema.Text.Trim

/-!
English plurals of the last word of a name.
-/
namespace RelSchema.Naming

/-- The nouns whose plural follows no rule, each with its plural. -/
def irregularPlurals : List (String × String) := [
  ("person", "people"), ("child", "children"), ("man", "men"), ("woman", "women"),
  ("mouse", "mice"), ("goose", "geese"), ("foot", "feet"), ("tooth", "teeth"), ("ox", "oxen")]

def irregularPlural? (word : String) : Option String :=
  irregularPlurals.lookup word

def irregularSingular? (word : String) : Option String :=
  (irregularPlurals.find? (·.2 == word)).map (·.1)

/-- The part of a name up to its last underscore, and the word after it. -/
def splitLastWord (name : List Char) : List Char × List Char :=
  match Text.cutAtLast? '_' name with
  | some (head, last) => (head ++ ['_'], last)
  | none => ([], name)

def endsWith (name : List Char) (ending : String) : Bool :=
  (Text.dropSuffix? ending.toList name).isSome

def singularize (name : String) : String :=
  let cs := name.toList
  let (head, last) := splitLastWord cs
  match irregularSingular? (.ofList last) with
  | some word => .ofList (head ++ word.toList)
  | none =>
    if endsWith cs "ies" then .ofList (cs.dropLast.dropLast.dropLast ++ ['y'])
    else if endsWith cs "ses" || endsWith cs "xes" || endsWith cs "zes" then
      .ofList cs.dropLast.dropLast
    else if endsWith cs "s" && !endsWith cs "ss" then .ofList cs.dropLast
    else name

def isVowel (c : Char) : Bool :=
  c == 'a' || c == 'e' || c == 'i' || c == 'o' || c == 'u'

/-- Whether the name ends in a `y` behind a character that is no vowel. -/
def endsInConsonantY (name : List Char) : Bool :=
  match name.reverse with
  | 'y' :: before :: _ => !isVowel before
  | _ => false

def pluralize (name : String) : String :=
  if name == "" then name
  else
    let cs := name.toList
    let (head, last) := splitLastWord cs
    match irregularPlural? (.ofList last) with
    | some word => .ofList (head ++ word.toList)
    | none =>
      if (irregularSingular? (.ofList last)).isSome then name
      else if endsInConsonantY cs then .ofList (cs.dropLast ++ ['i', 'e', 's'])
      else if endsWith cs "s" || endsWith cs "x" || endsWith cs "z" then name ++ "es"
      else name ++ "s"

end RelSchema.Naming
