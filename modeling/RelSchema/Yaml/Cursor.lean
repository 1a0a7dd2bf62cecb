import RelSchema.Text.Trim

/-!
Reading positions in a YAML text.
-/
namespace RelSchema.Yaml

def isAdmissible (c : Char) : Bool :=
  let n := c.toNat
  n == 9 || n == 10 || n == 13 || (0x20 ≤ n && n ≤ 0x7e) || n == 0x85 ||
    (0xa0 ≤ n && n ≤ 0xd7ff) || (0xe000 ≤ n && n ≤ 0xfffd) || 0x10000 ≤ n

/-- What the end of the text reads as; it is no admissible character. -/
def endMark : Char := '\x00'

def isBreak (c : Char) : Bool :=
  c == '\n' || c == '\r' || c == '\x85' || c == '\u2028' || c == '\u2029'

def isLineEnd (c : Char) : Bool :=
  c == endMark || isBreak c

def isBlank (c : Char) : Bool :=
  c == ' ' || c == '\t'

/-- A space, a tab, or the end of a line. -/
def isGap (c : Char) : Bool :=
  isBlank c || isLineEnd c

def isSpaceOrEnd (c : Char) : Bool :=
  c == ' ' || isLineEnd c

/-- The rest of a text and its position. -/
structure Cursor where
  rest : List Char
  index : Nat := 0
  line : Nat := 0
  column : Nat := 0

namespace Cursor

def peekAt (cursor : Cursor) (offset : Nat) : Char :=
  cursor.rest.getD offset endMark

def peek (cursor : Cursor) : Char :=
  cursor.peekAt 0

/-- The cursor behind the next character. A byte order mark takes no column. -/
def advance (cursor : Cursor) : Cursor :=
  match cursor.rest with
  | [] => cursor
  | c :: rest =>
    if isBreak c && !(c == '\r' && rest.head? == some '\n') then
      { rest, index := cursor.index + 1, line := cursor.line + 1, column := 0 }
    else
      { rest, index := cursor.index + 1, line := cursor.line,
        column := if c == '\ufeff' then cursor.column else cursor.column + 1 }

def advanceBy : Nat → Cursor → Cursor
  | 0, cursor => cursor
  | count + 1, cursor => advanceBy count cursor.advance

/-- The characters in front of which the test fails first, and the cursor behind them. -/
def takeWhile (p : Char → Bool) (cursor : Cursor) : List Char × Cursor :=
  let taken := cursor.rest.takeWhile p
  (taken, cursor.advanceBy taken.length)

def skipWhile (p : Char → Bool) (cursor : Cursor) : Cursor :=
  (cursor.takeWhile p).2

def skipSpaces (cursor : Cursor) : Cursor :=
  cursor.skipWhile (· == ' ')

/-- Skips a comment, if one starts here. -/
def skipComment (cursor : Cursor) : Cursor :=
  if cursor.peek == '#' then cursor.skipWhile (!isLineEnd ·) else cursor

/-- Reads a line break, if one is here; most kinds read as a line feed. -/
def readBreak (cursor : Cursor) : List Char × Cursor :=
  match cursor.rest with
  | '\r' :: '\n' :: _ => (['\n'], cursor.advanceBy 2)
  | c :: _ =>
    if c == '\n' || c == '\r' || c == '\x85' then (['\n'], cursor.advance)
    else if isBreak c then ([c], cursor.advance)
    else ([], cursor)
  | [] => ([], cursor)

/-- Whether the three characters here mark the start or the end of a document. -/
def hasMarker (marker : String) (cursor : Cursor) : Bool :=
  cursor.rest.take 3 == marker.toList && isGap (cursor.peekAt 3)

def hasDocumentMarker (cursor : Cursor) : Bool :=
  cursor.hasMarker "---" || cursor.hasMarker "..."

end Cursor

end RelSchema.Yaml
