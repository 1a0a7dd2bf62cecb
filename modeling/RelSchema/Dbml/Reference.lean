import RelSchema.Dbml.Name
import RelSchema.Schema.Table

/-!
References between tables outside their blocks.
-/
namespace RelSchema.Dbml

/-- A column that refers to another one. -/
structure Link where
  source : Target
  target : Target
  deriving DecidableEq, Repr

def withoutSettings (s : List Char) : List Char :=
  match s.reverse with
  | ']' :: before =>
    let (inner, outer) := (before.takeWhile (· != ']'), before.dropWhile (· != ']'))
    match Text.cutAtLast? '[' inner with
    | some (_, earlier) => Text.trimRight ((earlier ++ outer).reverse)
    | none => s
  | _ => s

def isPathEnd (c : Char) : Bool :=
  Text.isBlank c || c == '['

/-- The path behind a sign, up to a blank or bracket. -/
def pathAfter? (s : List Char) : Option (List Char) :=
  let path := (Text.trimLeft s).takeWhile (!isPathEnd ·)
  if path.isEmpty then none else some path

/-- The path that refers, read up to a relation sign; `before` is the reversed start of it. -/
def pathsFrom? (before : List Char) : List Char → Option (List Char × List Char)
  | [] => none
  | c :: rest =>
    let target? :=
      if before.isEmpty then none
      else match Text.trimLeft (c :: rest) with
        | '<' :: '>' :: tail => pathAfter? tail <|> pathAfter? ('>' :: tail)
        | sign :: tail =>
          if sign == '<' || sign == '>' || sign == '-' then pathAfter? tail else none
        | [] => none
    match target? with
    | some target => some (before.reverse, target)
    | none =>
      if Text.isBlank c || c == '<' || c == '>' then none else pathsFrom? (c :: before) rest

def link? (body : List Char) : Option Link := do
  let (source, target) ← pathsFrom? [] (withoutSettings (Text.trim body))
  return { source := ← target? source, target := ← target? target }

/-- The table with all columns of the source's name marked as foreign. -/
def linkTable (link : Link) (table : Table) : Table :=
  { table with
    columns := table.columns.map fun column =>
      if column.name == link.source.column then
        column.asForeignKey link.target.table (some link.target.column)
      else column }

/-- Changes the first element that satisfies the test. -/
def changeFirst (p : α → Bool) (f : α → α) : List α → List α
  | [] => []
  | a :: rest => if p a then f a :: rest else a :: changeFirst p f rest

/-- The tables with a reference applied to the first table that it names. A reference that cannot be
read changes nothing. -/
def applyReference (tables : List Table) (body : List Char) : List Table :=
  match link? body with
  | none => tables
  | some link => changeFirst (·.name == link.source.table) (linkTable link) tables

end RelSchema.Dbml
