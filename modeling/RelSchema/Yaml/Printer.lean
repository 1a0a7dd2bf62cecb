import RelSchema.Data.Basic
import RelSchema.Text.Quoted
import RelSchema.Yaml.Plain

/-!
Writing YAML in blocks. Texts are plain where they read back as themselves, quoted otherwise, and
folded behind column 80 where a single space or an escape allows it.
-/
namespace RelSchema.Yaml

/-- A printable character of the English alphabet or a line feed. -/
def isOrdinary (c : Char) : Bool :=
  c == '\n' || (32 ≤ c.toNat && c.toNat < 127)

def isEdge (c : Char) : Bool :=
  c == ' ' || c == '\n'

/-- Whether a space stands in front of or behind a line feed. -/
def hasSpaceAtBreak : List Char → Bool
  | a :: b :: rest =>
    (a == ' ' && b == '\n') || (a == '\n' && b == ' ') || hasSpaceAtBreak (b :: rest)
  | _ => false

/-- Whether the text between the characters around it would read as a sign, behind its start. -/
def hasInnerSign : List Char → Bool
  | before :: c :: rest =>
    (c == ':' && isEdge (rest.headD ' ')) || (c == '#' && isEdge before) ||
      hasInnerSign (c :: rest)
  | _ => false

def startsWithSign (s : List Char) : Bool :=
  match s with
  | [] => false
  | c :: rest =>
    "#,[]\x7b\x7d&*!|>'\"%@\x60".toList.contains c ||
      ("?:-".toList.contains c && isEdge (rest.headD ' ')) ||
      "---".toList.isPrefixOf s || "...".toList.isPrefixOf s

def isPlain (s : List Char) : Bool :=
  plainKind s == .text && s.all (fun c => isOrdinary c && c != '\n') &&
    !s.head?.any isEdge && !s.getLast?.any isEdge && !startsWithSign s && !hasInnerSign s

def isSingleQuotable (s : List Char) : Bool :=
  s.all isOrdinary && !hasSpaceAtBreak s

/-- The column behind which lines are folded. -/
def width : Nat := 80

def newLine (indent : Nat) : List Char :=
  '\n' :: List.replicate indent ' '

/-- A plain text from the column on, folded at single spaces; `afterSpace` tells whether a space
stands in front of it. -/
def foldPlain (indent : Nat) (column : Nat) (afterSpace : Bool) : List Char → List Char
  | [] => []
  | c :: rest =>
    if c == ' ' && !afterSpace && rest.head? != some ' ' && column > width then
      newLine indent ++ foldPlain indent indent true rest
    else c :: foldPlain indent (column + 1) (c == ' ') rest

/-- A text inside single quotes behind the character `before?`. Quotes are doubled, a run of line
feeds takes one more, and single spaces inside of the text are folded. -/
def foldSingle (indent : Nat) (column : Nat) (before? : Option Char) : List Char → List Char
  | [] => if before? == some '\n' then List.replicate indent ' ' else []
  | c :: rest =>
    let afterBreak := before? == some '\n' && c != '\n'
    let column := if afterBreak then indent else column
    let margin := if afterBreak then List.replicate indent ' ' else []
    if c == '\n' then
      (if before? == some '\n' then ['\n'] else ['\n', '\n']) ++ foldSingle indent 0 (some c) rest
    else if c == '\'' then
      margin ++ '\'' :: '\'' :: foldSingle indent (column + 2) (some c) rest
    else if c == ' ' && before?.isSome && before? != some ' ' && !rest.isEmpty &&
        rest.head? != some ' ' && column > width then
      newLine indent ++ foldSingle indent indent (some c) rest
    else margin ++ c :: foldSingle indent (column + 1) (some c) rest

/-- The letter that stands for a character behind a backslash. -/
def escapeLetter? : Char → Option Char
  | '\x00' => some '0'
  | '\x07' => some 'a'
  | '\x08' => some 'b'
  | '\t' => some 't'
  | '\n' => some 'n'
  | '\x0b' => some 'v'
  | '\x0c' => some 'f'
  | '\r' => some 'r'
  | '\x1b' => some 'e'
  | '"' => some '"'
  | '\\' => some '\\'
  | '\x85' => some 'N'
  | '\xa0' => some '_'
  | '\u2028' => some 'L'
  | '\u2029' => some 'P'
  | _ => none

/-- The escape of a character that double quotes do not show as itself. -/
def escape? (c : Char) : Option (List Char) :=
  let hex (width : Nat) : List Char := (Text.hexDigits width c.toNat).map Char.toUpper
  match escapeLetter? c with
  | some letter => some ['\\', letter]
  | none =>
    if 32 ≤ c.toNat && c.toNat < 127 then none
    else if c.toNat < 0x100 then some ('\\' :: 'x' :: hex 2)
    else if c.toNat < 0x10000 then some ('\\' :: 'u' :: hex 4)
    else some ('\\' :: 'U' :: hex 8)

/-- A fold inside double quotes in front of `next?`, and the column behind it. A backslash keeps a
space at the start of the new line. -/
def foldDouble (indent : Nat) (next? : Option Char) : List Char × Nat :=
  if next? == some ' ' then ('\\' :: newLine indent ++ ['\\'], indent + 1)
  else ('\\' :: newLine indent, indent)

/-- A text inside double quotes, folded at spaces and next to escapes; `first` tells whether nothing
stands in front of it, and `afterEscape` whether an escape does. -/
def renderDouble (indent : Nat) (column : Nat) (first afterEscape : Bool) :
    List Char → List Char
  | [] => []
  | c :: rest =>
    let inside := !first && !rest.isEmpty
    match escape? c with
    | some escape =>
      let column := column + escape.length
      if inside && column > width + 1 then
        let (fold, column) := foldDouble indent rest.head?
        escape ++ fold ++ renderDouble indent column false true rest
      else escape ++ renderDouble indent column false true rest
    | none =>
      if inside && (c == ' ' || afterEscape) && column > width then
        let (fold, column) := foldDouble indent (some c)
        fold ++ c :: renderDouble indent (column + 1) false false rest
      else c :: renderDouble indent (column + 1) false false rest

/-- A text behind a sign that ends in front of the column; further lines are indented. -/
def renderText (indent column : Nat) (s : List Char) : List Char :=
  if isPlain s then ' ' :: foldPlain indent (column + 1) false s
  else if isSingleQuotable s then ' ' :: '\'' :: foldSingle indent (column + 2) none s ++ ['\'']
  else ' ' :: '"' :: renderDouble indent (column + 2) true false s ++ ['"']

mutual

/-- A value behind a sign that ends in front of the column, inside a block of the given
indentation. The first member of a record that is an item of a list stands on the line of the
hyphen. Values that no field has become `null`. -/
def render (indent column : Nat) (isItem : Bool) : Data → List Char
  | .null | .brokenText | .other | .double _ => " null".toList
  | .bool b => (if b then " true" else " false").toList
  | .int n => ' ' :: (toString n).toList
  | .text s => renderText (indent + 2) column s.toList
  | .list items => if items.isEmpty then " []".toList else renderItems indent items
  | .record members =>
    if members.isEmpty then " \x7b\x7d".toList
    else (if isItem then [' '] else newLine (indent + 2)) ++ renderMembers (indent + 2) members

/-- The items of a list, each behind a hyphen. -/
def renderItems (indent : Nat) : List Data → List Char
  | [] => []
  | item :: items =>
    newLine indent ++ '-' :: render indent (indent + 1) true item ++ renderItems indent items

/-- The members of a record that start at the indentation, with line breaks between them. -/
def renderMembers (indent : Nat) : List (Data × Data) → List Char
  | [] => []
  | member :: members =>
    renderMember indent member ++ (if members.isEmpty then [] else newLine indent) ++
      renderMembers indent members

def renderMember (indent : Nat) : Data × Data → List Char
  | (.text name, value) =>
    name.toList ++ ':' :: render indent (indent + name.length + 1) false value
  | (_, value) => '?' :: ':' :: render indent (indent + 2) false value

end

def write : Data → String
  | .record members => .ofList (renderMembers 0 members ++ ['\n'])
  | data => .ofList ((render 0 0 false data).drop 1 ++ ['\n'])

end RelSchema.Yaml
