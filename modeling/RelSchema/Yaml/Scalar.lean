import RelSchema.Number.Integer
import RelSchema.Yaml.Cursor

/-!
The texts of scalars: plain ones, quoted ones and blocks of lines. A reader answers nothing for a
text that is malformed.
-/
namespace RelSchema.Yaml

abbrev Reading := Option (List Char × Cursor)

/-- The text of a scalar. Where it is broken, half of a surrogate pair stands in it for which there
is no character. -/
structure Content where
  text : List Char
  isBroken : Bool := false
  deriving DecidableEq

inductive Piece
  | char (c : Char)
  /-- Half of a surrogate pair, which is no character. -/
  | half
  /-- A code beyond those of characters. -/
  | beyond (code : Nat)
  deriving DecidableEq

namespace Piece

def code? : Piece → Option Nat
  | beyond code => some code
  | _ => none

/-- The character, in whose place another stands if there is none. -/
def shown : Piece → Char
  | char c => c
  | _ => '\ufffd'

end Piece

abbrev QuotedReading := Option (List Piece × Cursor)

/-- The character that a letter behind a backslash stands for. -/
def simpleEscape? : Char → Option Char
  | '0' => some '\x00'
  | 'a' => some '\x07'
  | 'b' => some '\x08'
  | 't' | '\t' => some '\t'
  | 'n' => some '\n'
  | 'v' => some '\x0b'
  | 'f' => some '\x0c'
  | 'r' => some '\r'
  | 'e' => some '\x1b'
  | ' ' => some ' '
  | '"' => some '"'
  | '\\' => some '\\'
  | '/' => some '/'
  | 'N' => some '\x85'
  | '_' => some '\xa0'
  | 'L' => some '\u2028'
  | 'P' => some '\u2029'
  | _ => none

/-- The number of hexadecimal digits behind a letter. -/
def codeLength? : Char → Option Nat
  | 'x' => some 2
  | 'u' => some 4
  | 'U' => some 8
  | _ => none

def pieceOfCode? (digits : List Char) : Option Piece := do
  let values ← digits.mapM Number.hexValue?
  let code := values.foldl (fun n value => n * 16 + value) 0
  if code.isValidChar then some (.char (Char.ofNat code))
  else if code < 0x110000 then some .half
  else some (.beyond code)

/-- The breaks of further lines, whose indentation is skipped. -/
def readQuotedBreaks : (fuel : Nat) → Cursor → Reading
  | 0, _ => none
  | fuel + 1, cursor =>
    if cursor.hasDocumentMarker then none
    else
      let cursor := cursor.skipWhile isBlank
      if isBreak cursor.peek then do
        let (lineBreak, cursor) := cursor.readBreak
        let (breaks, cursor) ← readQuotedBreaks fuel cursor
        return (lineBreak ++ breaks, cursor)
      else some ([], cursor)

/-- What a break stands for: nothing before further breaks, a space alone, or itself if it is no
usual one. -/
def foldedBreak (lineBreak breaks : List Char) : List Char :=
  (if lineBreak != ['\n'] then lineBreak else if breaks.isEmpty then [' '] else []) ++ breaks

/-- What a run of blanks in a quoted scalar stands for. -/
def readQuotedBlanks (fuel : Nat) (cursor : Cursor) : Reading :=
  let (blanks, cursor) := cursor.takeWhile isBlank
  if cursor.peek == endMark then none
  else if isBreak cursor.peek then do
    let (lineBreak, cursor) := cursor.readBreak
    let (breaks, cursor) ← readQuotedBreaks fuel cursor
    return (foldedBreak lineBreak breaks, cursor)
  else some (blanks, cursor)

def asPieces (reading : Reading) : QuotedReading :=
  reading.map fun (text, cursor) => (text.map .char, cursor)

/-- What an escape in double quotes stands for, read from behind its backslash. -/
def readEscape (fuel : Nat) (cursor : Cursor) : QuotedReading :=
  match simpleEscape? cursor.peek, codeLength? cursor.peek with
  | some c, _ => if cursor.rest.isEmpty then none else some ([.char c], cursor.advance)
  | none, some length => do
    let cursor := cursor.advance
    let digits := cursor.rest.take length
    if digits.length < length then none
    else return ([← pieceOfCode? digits], cursor.advanceBy length)
  | none, none =>
    if isBreak cursor.peek then asPieces (readQuotedBreaks fuel cursor.readBreak.2) else none

/-- The pieces up to the closing quote or up to a code beyond those of characters, and the cursor
behind them. -/
def readQuoted (quote : Char) : (fuel : Nat) → Cursor → QuotedReading
  | 0, _ => none
  | fuel + 1, cursor => do
    let c := cursor.peek
    let (pieces, next) ←
      if c == quote then
        if quote == '\'' && cursor.peekAt 1 == '\'' then some ([.char '\''], cursor.advanceBy 2)
        else none
      else if isGap c then asPieces (readQuotedBlanks fuel cursor)
      else if quote == '"' && c == '\\' then readEscape fuel cursor.advance
      else some ([.char c], cursor.advance)
    if next.peek == quote && !(quote == '\'' && next.peekAt 1 == '\'') then
      return (pieces, next.advance)
    else if pieces.any (·.code?.isSome) then return (pieces, next)
    else
      let (more, cursor) ← readQuoted quote fuel next
      return (pieces ++ more, cursor)

/-- A quoted scalar, from its opening quote on. -/
def readQuotedScalar (cursor : Cursor) : QuotedReading :=
  let quote := cursor.peek
  let inner := cursor.advance
  if inner.peek == quote && !(quote == '\'' && inner.peekAt 1 == '\'') then
    some ([], inner.advance)
  else readQuoted quote (inner.rest.length + 1) inner

/-- The characters that end a plain scalar inside brackets. -/
def isFlowIndicator (c : Char) : Bool :=
  c == ',' || c == '[' || c == ']' || c == '{' || c == '}'

/-- The number of characters up to the end of a piece of a plain scalar. -/
def plainLength (inFlow : Bool) : List Char → Nat
  | [] => 0
  | c :: rest =>
    let next := rest.headD endMark
    if isGap c || (c == ':' && (isGap next || (inFlow && isFlowIndicator next))) ||
        (inFlow && (isFlowIndicator c || c == '?')) then 0
    else plainLength inFlow rest + 1

/-- The breaks of further lines of a plain scalar; none at the mark of a document. -/
def readPlainBreaks : (fuel : Nat) → Cursor → Reading
  | 0, _ => none
  | fuel + 1, cursor =>
    if cursor.hasDocumentMarker then none
    else
      let cursor := cursor.skipSpaces
      if isBreak cursor.peek then do
        let (lineBreak, cursor) := cursor.readBreak
        let (breaks, cursor) ← readPlainBreaks fuel cursor
        return (lineBreak ++ breaks, cursor)
      else some ([], cursor)

/-- The breaks and spaces skipped in front of the mark of a document. -/
def skipPlainBreaks : (fuel : Nat) → Cursor → Cursor
  | 0, cursor => cursor
  | fuel + 1, cursor =>
    if cursor.hasDocumentMarker then cursor
    else
      let cursor := cursor.skipSpaces
      if isBreak cursor.peek then skipPlainBreaks fuel cursor.readBreak.2 else cursor

/-- The blanks behind a piece of a plain scalar. -/
structure PlainGap where
  text : List Char
  cursor : Cursor
  hasBreak : Bool

def readPlainGap (cursor : Cursor) : PlainGap :=
  let (spaces, cursor) := cursor.takeWhile (· == ' ')
  if isBreak cursor.peek then
    let (lineBreak, cursor) := cursor.readBreak
    let fuel := cursor.rest.length + 1
    match readPlainBreaks fuel cursor with
    | some (breaks, next) =>
      { text := foldedBreak lineBreak breaks, cursor := next, hasBreak := true }
    | none => { text := [], cursor := skipPlainBreaks fuel cursor, hasBreak := true }
  else { text := spaces, cursor, hasBreak := false }

/-- A plain scalar, and whether a line break follows its last piece directly or behind spaces. -/
structure Plain where
  text : List Char
  cursor : Cursor
  endsLine : Bool

/-- Reads a plain scalar behind the given gap. Outside brackets each line of it must be indented. -/
def readPlain (inFlow : Bool) (indent : Int) : (fuel : Nat) → PlainGap → Plain
  | 0, gap => { text := [], cursor := gap.cursor, endsLine := gap.hasBreak }
  | fuel + 1, gap =>
    let length := plainLength inFlow gap.cursor.rest
    if gap.cursor.peek == '#' || length == 0 then
      { text := [], cursor := gap.cursor, endsLine := gap.hasBreak }
    else
      let piece := gap.text ++ gap.cursor.rest.take length
      let next := readPlainGap (gap.cursor.advanceBy length)
      if next.text.isEmpty || next.cursor.peek == '#' ||
          (!inFlow && (next.cursor.column : Int) < indent) then
        { text := piece, cursor := next.cursor, endsLine := next.hasBreak }
      else
        let plain := readPlain inFlow indent fuel next
        { plain with text := piece ++ plain.text }

/-- What becomes of the breaks at the end of a block. -/
inductive Chomping
  | strip
  | clip
  | keep
  deriving DecidableEq

/-- The header of a block: its chomping, and its indentation relative to the node around it. -/
structure BlockHeader where
  chomping : Chomping
  increment : Option Nat

def chomping? : Char → Option Chomping
  | '+' => some .keep
  | '-' => some .strip
  | _ => none

/-- The indentation that a digit gives; zero is none. -/
def increment? (c : Char) : Option Nat :=
  if c.isDigit && c != '0' then some (c.toNat - '0'.toNat) else none

/-- Reads a block header: a chomping and an indentation in any order. -/
def readBlockHeader (cursor : Cursor) : Option (BlockHeader × Cursor) :=
  let (chomping, increment, cursor) :=
    match chomping? cursor.peek, increment? cursor.peek with
    | some chomping, _ =>
      let cursor := cursor.advance
      match increment? cursor.peek with
      | some increment => (chomping, some increment, cursor.advance)
      | none => (chomping, none, cursor)
    | none, some increment =>
      let cursor := cursor.advance
      match chomping? cursor.peek with
      | some chomping => (chomping, some increment, cursor.advance)
      | none => (.clip, some increment, cursor)
    | none, none => (.clip, none, cursor)
  if isSpaceOrEnd cursor.peek then
    let cursor := cursor.skipSpaces.skipComment
    if isLineEnd cursor.peek then some (⟨chomping, increment⟩, cursor.readBreak.2) else none
  else none

/-- The empty lines in front of a block without a given indentation, and the widest of them. -/
def readLeadingBreaks : (fuel widest : Nat) → Cursor → List Char × Nat × Cursor
  | 0, widest, cursor => ([], widest, cursor)
  | fuel + 1, widest, cursor =>
    let cursor := cursor.skipSpaces
    let widest := max widest cursor.column
    if isBreak cursor.peek then
      let (lineBreak, cursor) := cursor.readBreak
      let (breaks, widest, cursor) := readLeadingBreaks fuel widest cursor
      (lineBreak ++ breaks, widest, cursor)
    else ([], widest, cursor)

def skipIndent (column : Nat) (cursor : Cursor) : Cursor :=
  let spaces := (cursor.rest.takeWhile (· == ' ')).length
  cursor.advanceBy (min spaces (column - cursor.column))

/-- The empty lines between the lines of a block. -/
def readBlockBreaks (indent : Nat) : (fuel : Nat) → Cursor → List Char × Cursor
  | 0, cursor => ([], cursor)
  | fuel + 1, cursor =>
    let cursor := skipIndent indent cursor
    if isBreak cursor.peek then
      let (lineBreak, cursor) := cursor.readBreak
      let (breaks, cursor) := readBlockBreaks indent fuel cursor
      (lineBreak ++ breaks, cursor)
    else ([], cursor)

/-- The last break of a block and the empty lines behind it, as its chomping keeps them. -/
def Chomping.tail (chomping : Chomping) (lineBreak breaks : List Char) : List Char :=
  match chomping with
  | strip => []
  | clip => lineBreak
  | keep => lineBreak ++ breaks

/-- The lines of a block behind the given empty lines. In a folded block a break between two lines
that start with no blank reads as a space. -/
def readBlockLines (folded : Bool) (indent : Nat) (chomping : Chomping) :
    (fuel : Nat) → (breaks : List Char) → Cursor → List Char × Cursor
  | 0, _, cursor => ([], cursor)
  | fuel + 1, breaks, cursor =>
    let startsWithText := !isBlank cursor.peek
    let (line, cursor) := cursor.takeWhile (!isLineEnd ·)
    let (lineBreak, cursor) := cursor.readBreak
    let (nextBreaks, cursor) := readBlockBreaks indent fuel cursor
    if cursor.column == indent && cursor.peek != endMark then
      let joined :=
        if folded && lineBreak == ['\n'] && startsWithText && !isBlank cursor.peek then
          if nextBreaks.isEmpty then [' '] else []
        else lineBreak
      let (text, cursor) := readBlockLines folded indent chomping fuel nextBreaks cursor
      (breaks ++ line ++ joined ++ text, cursor)
    else (breaks ++ line ++ chomping.tail lineBreak nextBreaks, cursor)

/-- A block of lines, from its indicator on, inside a node of the given indentation. -/
def readBlockScalar (nodeIndent : Int) (cursor : Cursor) : Reading := do
  let folded := cursor.peek == '>'
  let (header, cursor) ← readBlockHeader cursor.advance
  let least := (max 1 (nodeIndent + 1)).toNat
  let fuel := cursor.rest.length + 1
  let (breaks, indent, cursor) :=
    match header.increment with
    | none =>
      let (breaks, widest, cursor) := readLeadingBreaks fuel 0 cursor
      (breaks, max least widest, cursor)
    | some increment =>
      let indent := least + increment - 1
      let (breaks, cursor) := readBlockBreaks indent fuel cursor
      (breaks, indent, cursor)
  if cursor.column == indent && cursor.peek != endMark then
    return readBlockLines folded indent header.chomping fuel breaks cursor
  else return (header.chomping.tail [] breaks, cursor)

end RelSchema.Yaml
