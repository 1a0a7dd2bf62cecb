import RelSchema.Yaml.Scalar

/-!
The tokens of a YAML text. Blocks are marked by tokens at their start and end, and a simple key is
marked by tokens that are put in front of it once its colon is found.
-/
namespace RelSchema.Yaml

inductive Style
  | plain
  | quoted
  deriving DecidableEq

/-- A tag as it is written: the part that a directive may define, and the rest. -/
structure TagText where
  handle : Option (List Char)
  suffix : List Char
  deriving DecidableEq

inductive Token
  | version (major : Nat)
  | tagDirective (handle start : List Char)
  | otherDirective
  | documentStart
  | documentEnd
  | textEnd
  | blockSequence
  | blockMapping
  | blockEnd
  | flowSequence
  | flowSequenceEnd
  | flowMapping
  | flowMappingEnd
  | blockEntry
  | flowEntry
  | key
  | value
  | alias (name : List Char)
  | anchor (name : List Char)
  | tag (text : TagText)
  | scalar (style : Style) (content : Content)
  /-- A quoted scalar with a code beyond those of characters, which ends the text. -/
  | beyond (code : Nat)
  deriving DecidableEq

def Token.ofPieces (pieces : List Piece) : Token :=
  match pieces.findSome? Piece.code? with
  | some code => beyond code
  | none => scalar .quoted { text := pieces.map Piece.shown, isBroken := pieces.contains .half }

def isNameChar (c : Char) : Bool :=
  c.isAlphanum || c == '-' || c == '_'

/-- The name of an anchor or alias, from behind its sign. -/
def readAnchorName (cursor : Cursor) : Reading :=
  let (name, cursor) := cursor.takeWhile isNameChar
  let follows := isGap cursor.peek || "?:,]\x7d%@\x60".toList.contains cursor.peek
  if name.isEmpty || !follows then none else some (name, cursor)

def isUriChar (c : Char) : Bool :=
  c.isAlphanum || "-;/?:@&=+$,_.!~*'()[]".toList.contains c

/-- The bytes that percent escapes in front of the text stand for. -/
def readEscapedBytes : (fuel : Nat) → Cursor → Option (List UInt8 × Cursor)
  | 0, _ => none
  | fuel + 1, cursor =>
    if cursor.peek == '%' then do
      let high ← Number.hexValue? (cursor.peekAt 1)
      let low ← Number.hexValue? (cursor.peekAt 2)
      let (bytes, cursor) ← readEscapedBytes fuel (cursor.advanceBy 3)
      return ((high * 16 + low).toUInt8 :: bytes, cursor)
    else some ([], cursor)

/-- The characters of an address, with escapes decoded. -/
def readUri : (fuel : Nat) → Cursor → Reading
  | 0, _ => none
  | fuel + 1, cursor =>
    if cursor.peek == '%' then do
      let (bytes, cursor) ← readEscapedBytes (cursor.rest.length + 1) cursor
      let text ← String.fromUTF8? ⟨bytes.toArray⟩
      let (rest, cursor) ← readUri fuel cursor
      return (text.toList ++ rest, cursor)
    else if isUriChar cursor.peek then do
      let (rest, next) ← readUri fuel cursor.advance
      return (cursor.peek :: rest, next)
    else some ([], cursor)

def readUriText (cursor : Cursor) : Reading := do
  let (text, cursor) ← readUri (cursor.rest.length + 1) cursor
  if text.isEmpty then none else return (text, cursor)

/-- The handle of a tag: an exclamation mark, alone or with a name and a second one behind it. -/
def readTagHandle (cursor : Cursor) : Reading :=
  if cursor.peek != '!' then none
  else
    let (name, next) := cursor.advance.takeWhile isNameChar
    if cursor.peekAt 1 == ' ' then some (['!'], cursor.advance)
    else if next.peek == '!' then some ('!' :: name ++ ['!'], next.advance)
    else none

/-- A tag, from its exclamation mark on. -/
def readTag (cursor : Cursor) : Option (TagText × Cursor) := do
  let (tag, cursor) ←
    if cursor.peekAt 1 == '<' then do
      let (suffix, cursor) ← readUriText (cursor.advanceBy 2)
      if cursor.peek == '>' then some (⟨none, suffix⟩, cursor.advance) else none
    else if isGap (cursor.peekAt 1) then some (⟨none, ['!']⟩, cursor.advance)
    else do
      let hasHandle := (cursor.rest.drop 1).takeWhile (!isSpaceOrEnd ·) |>.contains '!'
      let (handle, cursor) ←
        if hasHandle then readTagHandle cursor else some (['!'], cursor.advance)
      let (suffix, cursor) ← readUriText cursor
      some (⟨some handle, suffix⟩, cursor)
  if isSpaceOrEnd cursor.peek then return (tag, cursor) else none

def readNumber (cursor : Cursor) : Option (Nat × Cursor) :=
  let (digits, cursor) := cursor.takeWhile Char.isDigit
  if digits.isEmpty then none else some (Number.natOfDigits 10 digits, cursor)

/-- The version in a directive, from behind its name. -/
def readVersion (cursor : Cursor) : Option (Token × Cursor) := do
  let (major, cursor) ← readNumber cursor.skipSpaces
  if cursor.peek != '.' then none
  else
    let (_, cursor) ← readNumber cursor.advance
    if isSpaceOrEnd cursor.peek then return (.version major, cursor) else none

/-- The handle and the text it stands for in a directive, from behind its name. -/
def readTagDirective (cursor : Cursor) : Option (Token × Cursor) := do
  let (handle, cursor) ← readTagHandle cursor.skipSpaces
  if cursor.peek != ' ' then none
  else
    let (start, cursor) ← readUriText cursor.skipSpaces
    if isSpaceOrEnd cursor.peek then return (.tagDirective handle start, cursor) else none

/-- A directive, from its percent sign on, up to the end of its line. -/
def readDirective (cursor : Cursor) : Option (Token × Cursor) := do
  let (name, cursor) := cursor.advance.takeWhile isNameChar
  if name.isEmpty || !isSpaceOrEnd cursor.peek then none
  else
    let (token, cursor) ←
      if name == "YAML".toList then readVersion cursor
      else if name == "TAG".toList then readTagDirective cursor
      else some (.otherDirective, cursor.skipWhile (!isLineEnd ·))
    let cursor := cursor.skipSpaces.skipComment
    if isLineEnd cursor.peek then return (token, cursor.readBreak.2) else none

structure SimpleKey where
  token : Nat
  required : Bool
  index : Nat
  line : Nat
  column : Nat

/-- The state of a scan: the open indentations, the number of open brackets, whether a key may start
here, and the possible start of a key for each number of brackets. -/
structure Scan where
  cursor : Cursor
  tokens : Array Token := #[]
  indent : Int := -1
  indents : List Int := []
  level : Nat := 0
  keyAllowed : Bool := true
  keys : List (Nat × SimpleKey) := []

namespace Scan

def push (scan : Scan) (token : Token) : Scan :=
  { scan with tokens := scan.tokens.push token }

def insertAt (scan : Scan) (position : Nat) (token : Token) : Scan :=
  let before := scan.tokens.extract 0 position
  { scan with
    tokens := before.push token ++ scan.tokens.extract position scan.tokens.size }

def inFlow (scan : Scan) : Bool :=
  scan.level != 0

/-- Whether a key started on this line and not too far back. -/
def isFresh (scan : Scan) (key : SimpleKey) : Bool :=
  key.line == scan.cursor.line && scan.cursor.index - key.index ≤ 1024

/-- Forgets the keys that can no longer be simple ones, none of which may be required. -/
def dropStaleKeys (scan : Scan) : Option Scan :=
  if scan.keys.any fun (_, key) => !scan.isFresh key && key.required then none
  else some { scan with keys := scan.keys.filter fun (_, key) => scan.isFresh key }

/-- Forgets the key of this number of brackets, which may not be required. -/
def dropKey (scan : Scan) : Option Scan :=
  match scan.keys.lookup scan.level with
  | some key =>
    if key.required then none
    else some { scan with keys := scan.keys.filter (·.1 != scan.level) }
  | none => some scan

/-- Notes that a key may start here. -/
def noteKey (scan : Scan) : Option Scan :=
  if scan.keyAllowed then do
    let required := !scan.inFlow && scan.indent == scan.cursor.column
    let scan ← scan.dropKey
    let key : SimpleKey := {
      token := scan.tokens.size, required, index := scan.cursor.index, line := scan.cursor.line,
      column := scan.cursor.column }
    return { scan with keys := (scan.level, key) :: scan.keys }
  else some scan

/-- Closes the blocks that are indented further than the column; `indents` are the outer ones. -/
def closeBlocks (column : Int) : List Int → Scan → Scan
  | [], scan => scan
  | outer :: indents, scan =>
    if scan.indent > column then
      closeBlocks column indents
        { scan.push .blockEnd with indent := outer, indents }
    else scan

def unwind (scan : Scan) (column : Int) : Scan :=
  if scan.inFlow then scan else closeBlocks column scan.indents scan

/-- Opens a block at the column if it is indented further, with the given action. -/
def openBlock (scan : Scan) (column : Nat) (start : Scan → Scan) : Scan :=
  if scan.indent < column then
    start { scan with indents := scan.indent :: scan.indents, indent := column }
  else scan

def pushSign (scan : Scan) (length : Nat) (token : Token) : Scan :=
  { scan.push token with cursor := scan.cursor.advanceBy length }

def skipToToken : (fuel : Nat) → Scan → Scan
  | 0, scan => scan
  | fuel + 1, scan =>
    let cursor := scan.cursor.skipSpaces.skipComment
    if isBreak cursor.peek then
      skipToToken fuel { scan with
        cursor := cursor.readBreak.2, keyAllowed := scan.keyAllowed || !scan.inFlow }
    else { scan with cursor }

/-- Closes all blocks in front of a mark or directive outside of them. -/
def closeAll (scan : Scan) : Option Scan := do
  let scan ← (scan.unwind (-1)).dropKey
  return { scan with keyAllowed := false }

def readDocumentMark (scan : Scan) (token : Token) : Option Scan := do
  return (← scan.closeAll).pushSign 3 token

def readFlowStart (scan : Scan) (token : Token) : Option Scan := do
  let scan ← scan.noteKey
  return { scan.pushSign 1 token with level := scan.level + 1, keyAllowed := true }

def readFlowEnd (scan : Scan) (token : Token) : Option Scan := do
  let scan ← scan.dropKey
  if scan.level == 0 then none
  else return { scan.pushSign 1 token with level := scan.level - 1, keyAllowed := false }

def readFlowEntry (scan : Scan) : Option Scan := do
  return { (← scan.dropKey).pushSign 1 .flowEntry with keyAllowed := true }

def readBlockEntry (scan : Scan) : Option Scan :=
  if !scan.inFlow && !scan.keyAllowed then none
  else do
    let scan :=
      if scan.inFlow then scan
      else scan.openBlock scan.cursor.column (·.push .blockSequence)
    return { (← scan.dropKey).pushSign 1 .blockEntry with keyAllowed := true }

def readKey (scan : Scan) : Option Scan :=
  if !scan.inFlow && !scan.keyAllowed then none
  else do
    let scan :=
      if scan.inFlow then scan
      else scan.openBlock scan.cursor.column (·.push .blockMapping)
    return { (← scan.dropKey).pushSign 1 .key with keyAllowed := !scan.inFlow }

/-- The colon behind a simple key: the key and perhaps its mapping are marked in front of it. -/
def readSimpleValue (scan : Scan) (key : SimpleKey) : Scan :=
  let scan := { scan with keys := scan.keys.filter (·.1 != scan.level) }
  let scan := scan.insertAt key.token .key
  let scan :=
    if scan.inFlow then scan
    else scan.openBlock key.column (·.insertAt key.token .blockMapping)
  { scan.pushSign 1 .value with keyAllowed := false }

def readValue (scan : Scan) : Option Scan :=
  match scan.keys.lookup scan.level with
  | some key => some (scan.readSimpleValue key)
  | none =>
    if !scan.inFlow && !scan.keyAllowed then none
    else do
      let scan :=
        if scan.inFlow then scan
        else scan.openBlock scan.cursor.column (·.push .blockMapping)
      return { (← scan.dropKey).pushSign 1 .value with keyAllowed := !scan.inFlow }

def pushNode (scan : Scan) (read : Cursor → Option (Token × Cursor)) : Option Scan := do
  let scan ← scan.noteKey
  let (token, cursor) ← read scan.cursor
  return { scan.push token with cursor, keyAllowed := false }

def readBlock (scan : Scan) : Option Scan := do
  let scan ← scan.dropKey
  let (text, cursor) ← readBlockScalar scan.indent scan.cursor
  return { scan.push (.scalar .quoted { text }) with cursor, keyAllowed := true }

def readPlainToken (scan : Scan) : Option Scan := do
  let scan ← scan.noteKey
  let plain := readPlain scan.inFlow (scan.indent + 1) (scan.cursor.rest.length + 1)
    { text := [], cursor := scan.cursor, hasBreak := false }
  return { scan.push (.scalar .plain { text := plain.text }) with
    cursor := plain.cursor, keyAllowed := plain.endsLine }

def startsPlain (scan : Scan) : Bool :=
  let c := scan.cursor.peek
  if isGap c then false
  else if "-?:,[]\x7b\x7d#&*!|>'\"%@\x60".toList.contains c then
    !isGap (scan.cursor.peekAt 1) && (c == '-' || (!scan.inFlow && (c == '?' || c == ':')))
  else true

/-- Whether the sign here stands for itself, which it does in front of a gap and in brackets. -/
def isSign (scan : Scan) : Bool :=
  scan.inFlow || isGap (scan.cursor.peekAt 1)

/-- Reads the token at the cursor, which is not at the end of the text. -/
def readToken (scan : Scan) : Option Scan :=
  let cursor := scan.cursor
  let c := cursor.peek
  if c == '%' && cursor.column == 0 then do
    let scan ← scan.closeAll
    let (token, cursor) ← readDirective cursor
    return { scan.push token with cursor }
  else if cursor.column == 0 && cursor.hasMarker "---" then scan.readDocumentMark .documentStart
  else if cursor.column == 0 && cursor.hasMarker "..." then scan.readDocumentMark .documentEnd
  else if c == '[' then scan.readFlowStart .flowSequence
  else if c == '{' then scan.readFlowStart .flowMapping
  else if c == ']' then scan.readFlowEnd .flowSequenceEnd
  else if c == '}' then scan.readFlowEnd .flowMappingEnd
  else if c == ',' then scan.readFlowEntry
  else if c == '-' && isGap (cursor.peekAt 1) then scan.readBlockEntry
  else if c == '?' && scan.isSign then scan.readKey
  else if c == ':' && scan.isSign then scan.readValue
  else if c == '*' then scan.pushNode fun cursor =>
    (readAnchorName cursor.advance).map fun (name, cursor) => (.alias name, cursor)
  else if c == '&' then scan.pushNode fun cursor =>
    (readAnchorName cursor.advance).map fun (name, cursor) => (.anchor name, cursor)
  else if c == '!' then scan.pushNode fun cursor =>
    (readTag cursor).map fun (tag, cursor) => (.tag tag, cursor)
  else if (c == '|' || c == '>') && !scan.inFlow then scan.readBlock
  else if c == '\'' || c == '"' then scan.pushNode fun cursor =>
    (readQuotedScalar cursor).map fun (pieces, cursor) => (.ofPieces pieces, cursor)
  else if scan.startsPlain then scan.readPlainToken
  else none

/-- Whether the last token ends the text. -/
def hasStopped (scan : Scan) : Bool :=
  match scan.tokens.back? with
  | some (.beyond _) => true
  | _ => false

def readAll : (fuel : Nat) → Scan → Option Scan
  | 0, _ => none
  | fuel + 1, scan => do
    if scan.hasStopped then return scan
    let scan ← (skipToToken (scan.cursor.rest.length + 1) scan).dropStaleKeys
    let scan := scan.unwind scan.cursor.column
    if scan.cursor.rest.isEmpty then return (← (scan.unwind (-1)).dropKey).push .textEnd
    else readAll fuel (← scan.readToken)

end Scan

/-- The tokens of a text, of which there are none if it is malformed. -/
def tokens? (text : List Char) : Option (List Token) :=
  if text.all isAdmissible then
    let cursor : Cursor := { rest := text }
    let cursor := if cursor.peek == '\ufeff' then cursor.advance else cursor
    ((Scan.readAll (text.length + 2) { cursor }).map (·.tokens.toList))
  else none

end RelSchema.Yaml
