import RelSchema.Text.Trim

/-!
The `IF NOT EXISTS` clause of `CREATE TABLE` statements.
-/
namespace RelSchema.Ddl

/-- The rest of the text behind at least one blank and the word. -/
def dropBlankWord? (word : String) (s : List Char) : Option (List Char) :=
  match s with
  | [] => none
  | c :: rest =>
    if Text.isBlank c then Text.dropPrefix? word.toList (Text.trimLeft rest) else none

def startsWithGuard (s : List Char) : Bool :=
  (dropBlankWord? "IF" s >>= dropBlankWord? "NOT" >>= dropBlankWord? "EXISTS").isSome

/-- Whether the reversed text ends in the words `CREATE TABLE`. -/
def endsWithHead (before : List Char) : Bool :=
  match Text.dropPrefix? "CREATE TABLE".toList.reverse before with
  | none => false
  | some earlier => !earlier.head?.any Text.isWordChar

/-- Whether the clause is missing between the reversed text `before` and the text `after`. -/
def lacksGuard (before after : List Char) : Bool :=
  endsWithHead before && !after.head?.any Text.isWordChar && !startsWithGuard after

/-- The text after the reversed text `before`, with the clause wherever it is missing. -/
def guardFrom (before : List Char) : List Char → List Char
  | [] => if lacksGuard before [] then " IF NOT EXISTS".toList else []
  | c :: rest =>
    (if lacksGuard before (c :: rest) then " IF NOT EXISTS".toList else []) ++
      c :: guardFrom (c :: before) rest

/-- The script with `IF NOT EXISTS` in every `CREATE TABLE` that lacks it. -/
def ifNotExists (script : String) : String :=
  .ofList (guardFrom [] script.toList)

end RelSchema.Ddl
