import RelSchema.Failure
import RelSchema.Toml.Number

/-!
TOML documents: statements that set values in tables, and headers that open tables. A table is
opened by one header only, and a table or a list that is written as a value is never added to.
-/
namespace RelSchema.Toml

abbrev Members := List (Data × Data)

/-- Changes the members of a table. A missing table is made, and a list stands for its last
table. -/
def changeTable (change : Members → Option Members) : Option Data → Option Data
  | none => (change []).map .record
  | some (.record members) => (change members).map .record
  | some (.list items) =>
    match items.getLast? with
    | some (.record members) =>
      (change members).map fun members => .list (items.dropLast ++ [.record members])
    | _ => none
  | some _ => none

def changeAt (change : Members → Option Members) : List String → Members → Option Members
  | [], members => change members
  | key :: path, members =>
    (changeTable (changeAt change path) (Data.member? members key)).map fun value =>
      Data.setMember (.text key) value members

/-- Adds a member, unless one has the key already. -/
def addMember (key : String) (value : Data) (members : Members) : Option Members :=
  if (Data.member? members key).isSome then none
  else some (Data.setMember (.text key) value members)

/-- Adds an empty table to the list under the key. -/
def addTable (key : String) (members : Members) : Option Members :=
  match Data.member? members key with
  | none => some (Data.setMember (.text key) (.list [.record []]) members)
  | some (.list items) =>
    some (Data.setMember (.text key) (.list (items ++ [.record []])) members)
  | some _ => none

def isCompound : Data → Bool
  | .record _ | .list _ => true
  | _ => false

/-- Sets the value of a key of several parts in a table that is written as a value, in which the
tables and lists under the `frozen` keys are complete. -/
def addInline (frozen : List (List String)) (key : List String) (value : Data)
    (members : Members) : Option Members :=
  if frozen.any (·.isPrefixOf key) then none
  else changeAt (addMember (key.getLastD "") value) key.dropLast members

mutual

def readValue : (fuel : Nat) → List Char → Option (Data × List Char)
  | 0, _ => none
  | fuel + 1, s =>
    match s with
    | '"' :: _ | '\'' :: _ => (readString s).map fun (text, rest) => (.text (.ofList text), rest)
    | 't' :: 'r' :: 'u' :: 'e' :: rest => some (.bool true, rest)
    | 'f' :: 'a' :: 'l' :: 's' :: 'e' :: rest => some (.bool false, rest)
    | '[' :: rest => do
      let (items, rest) ← readItems fuel rest
      return (.list items, rest)
    | '\x7b' :: rest =>
      match skipGap rest with
      | '\x7d' :: rest => some (.record [], rest)
      | rest => readInline fuel [] [] rest
    | _ => readQuantity s

def readItems : (fuel : Nat) → List Char → Option (List Data × List Char)
  | 0, _ => none
  | fuel + 1, s => do
    match ← skipFiller? s.length s with
    | ']' :: rest => return ([], rest)
    | s =>
      let (item, rest) ← readValue fuel s
      match ← skipFiller? rest.length rest with
      | ']' :: rest => return ([item], rest)
      | ',' :: rest =>
        let (items, rest) ← readItems fuel rest
        return (item :: items, rest)
      | _ => none

/-- The members of a table up to its closing brace, added to those before. -/
def readInline : (fuel : Nat) → List (List String) → Members → List Char → Option (Data × List Char)
  | 0, _, _, _ => none
  | fuel + 1, frozen, members, s => do
    let (key, rest) ← readKey s.length s
    let rest ← Text.dropPrefix? ['='] rest
    let (value, rest) ← readValue fuel (skipGap rest)
    let members ← addInline frozen key value members
    match skipGap rest with
    | '\x7d' :: rest => return (.record members, rest)
    | ',' :: rest =>
      readInline fuel (if isCompound value then key :: frozen else frozen) members (skipGap rest)
    | _ => none

end

/-- A document so far. Paths lead from the root. -/
structure Document where
  members : Members := []
  /-- The table that the last header opened. -/
  header : List String := []
  /-- The tables that no header may open. -/
  closed : List (List String) := []
  /-- The tables made by keys of several parts since the last header, which no later header may
  open. -/
  pending : List (List String) := []
  /-- The tables and lists that are written as values. -/
  frozen : List (List String) := []

namespace Document

def isFrozen (document : Document) (path : List String) : Bool :=
  document.frozen.any (·.isPrefixOf path)

/-- The document at a header, which closes the tables made by keys before it. -/
def settled (document : Document) : Document :=
  { document with
    closed := document.pending ++ document.closed
    pending := [] }

def openTable (path : List String) (document : Document) : Option Document :=
  if document.closed.contains path || document.isFrozen path then none
  else do
    return { document with
      members := ← changeAt some path document.members
      header := path
      closed := path :: document.closed }

/-- Opens a further table of a list, in which nothing is closed yet. -/
def openListItem (path : List String) (document : Document) : Option Document :=
  if document.isFrozen path then none
  else do
    let isOutside (other : List String) : Bool := !path.isPrefixOf other
    return { document with
      members := ← changeAt (addTable (path.getLastD "")) path.dropLast document.members
      header := path
      closed := path :: document.closed.filter isOutside
      frozen := document.frozen.filter isOutside }

/-- The proper, non-empty starts of a key. -/
def starts (key : List String) : List (List String) :=
  (List.range (key.length - 1)).map fun count => key.take (count + 1)

def setValue (key : List String) (value : Data) (document : Document) : Option Document :=
  let made := (starts key).map (document.header ++ ·)
  let parent := document.header ++ key.dropLast
  if made.any document.closed.contains || document.isFrozen parent then none
  else do
    return { document with
      members := ← changeAt (addMember (key.getLastD "") value) parent document.members
      pending := made ++ document.pending
      frozen := if isCompound value then (document.header ++ key) :: document.frozen
        else document.frozen }

/-- Reads a header, of which the first bracket is passed. -/
def readHeader (s : List Char) (document : Document) : Option (Document × List Char) :=
  match s with
  | '[' :: rest => do
    let (path, rest) ← readKey s.length (skipGap rest)
    let document ← document.settled.openListItem path
    return (document, ← Text.dropPrefix? [']', ']'] rest)
  | _ => do
    let (path, rest) ← readKey s.length (skipGap s)
    let document ← document.settled.openTable path
    return (document, ← Text.dropPrefix? [']'] rest)

def readAssignment (s : List Char) (document : Document) : Option (Document × List Char) := do
  let (key, rest) ← readKey s.length s
  let rest ← Text.dropPrefix? ['='] rest
  let (value, rest) ← readValue s.length (skipGap rest)
  return (← document.setValue key value, rest)

def readStatement (s : List Char) (document : Document) : Option (Document × List Char) :=
  match s with
  | '[' :: rest => document.readHeader rest
  | '#' :: _ => some (document, s)
  | _ => document.readAssignment s

/-- The document behind the statements of the text, of which each ends its line. -/
def readStatements : (fuel : Nat) → List Char → Document → Option Document
  | 0, _, _ => none
  | fuel + 1, s, document =>
    match skipGap s with
    | [] => some document
    | '\n' :: rest => readStatements fuel rest document
    | s => do
      let (document, rest) ← document.readStatement s
      match ← skipComment? (skipGap rest) with
      | [] => return document
      | '\n' :: rest => readStatements fuel rest document
      | _ => none

end Document

/-- The text in which a line feed alone ends a line that a carriage return and a line feed end. -/
def withLineFeeds : List Char → List Char
  | [] => []
  | '\r' :: '\n' :: rest => '\n' :: withLineFeeds rest
  | c :: rest => c :: withLineFeeds rest

mutual

/-- The number of digits of the first integer in a value that has too many. -/
def oversized? : Data → Option Nat
  | .int n =>
    if n.natAbs < Nat.pow 10 Number.digitLimit then none
    else some (Nat.toDigits 10 n.natAbs).length
  | .list items => oversizedItem? items
  | .record members => oversizedMember? members
  | _ => none

def oversizedItem? : List Data → Option Nat
  | [] => none
  | item :: items => oversized? item <|> oversizedItem? items

def oversizedMember? : Members → Option Nat
  | [] => none
  | (_, value) :: members => oversized? value <|> oversizedMember? members

end

def read (text : String) : Except Failure Members :=
  let s := withLineFeeds text.toList
  match Document.readStatements (s.length + 1) s {} with
  | some document =>
    match oversizedMember? document.members with
    | some digits => .error (.integer (.oversized digits))
    | none => .ok document.members
  | none => .error .toml

end RelSchema.Toml
