import RelSchema.Failure
import RelSchema.Yaml.Meaning

/-!
Reading a YAML document from its tokens.
-/
namespace RelSchema.Yaml

/-- What stands in front of the content of a node. -/
structure Properties where
  anchor : Option (List Char) := none
  tag : Option (List Char) := none

/-- The rest of the tokens, the nodes of the anchors seen so far, none for one that is still being
read, the names of those of them that hold an alias to themselves, and what the handles of tags
stand for. -/
structure Reader where
  tokens : List Token
  anchors : List (List Char × Option Node) := []
  looping : List (List Char) := []
  handles : List (List Char × List Char) := []

namespace Reader

def drop (reader : Reader) : Reader :=
  { reader with tokens := reader.tokens.drop 1 }

def head (reader : Reader) : Token :=
  reader.tokens.headD .textEnd

/-- The fault of a text whose next token does not fit. -/
def refusal (reader : Reader) : Fault :=
  match reader.head with
  | .beyond code => .code code
  | _ => .malformed

/-- Notes the anchor of a node, which must be new. -/
def openAnchor (properties : Properties) (reader : Reader) : Except Fault Reader :=
  match properties.anchor with
  | none => .ok reader
  | some name =>
    if (reader.anchors.lookup name).isSome then .error .malformed
    else .ok { reader with anchors := (name, none) :: reader.anchors }

/-- Notes the node of an anchor and follows its loops, also in the nodes within it. -/
def closeAnchor (properties : Properties) (node : Node) (reader : Reader) : Node × Reader :=
  match properties.anchor with
  | none => (node, reader)
  | some name =>
    let (node, anchors) :=
      if reader.looping.contains name then
        let node := node.unrolled name Node.rounds
        let close : Option Node → Option Node := Option.map (Node.closed name node)
        (node, reader.anchors.map fun (other, inner?) => (other, close inner?))
      else (node, reader.anchors)
    (node, { reader with anchors := (name, some node) :: anchors })

/-- Reads an alias, which is a loop inside of the node that it names. -/
def readAlias (name : List Char) (reader : Reader) : Except Fault (Node × Reader) :=
  let rest := reader.drop
  match reader.anchors.lookup name with
  | none => .error .malformed
  | some (some node) => .ok (node, rest)
  | some none => .ok (.loop name, { rest with looping := name :: rest.looping })

def expandTag (tag : TagText) (reader : Reader) : Except Fault (List Char) :=
  match tag.handle with
  | none => .ok tag.suffix
  | some handle => match reader.handles.lookup handle with
    | some start => .ok (start ++ tag.suffix)
    | none => .error .malformed

/-- Reads an anchor and a tag in any order; both may be missing. -/
def properties (reader : Reader) : Except Fault (Properties × Reader) :=
  match reader.tokens with
  | .anchor name :: .tag tag :: rest | .tag tag :: .anchor name :: rest => do
    return ({ anchor := some name, tag := some (← reader.expandTag tag) },
      { reader with tokens := rest })
  | .anchor name :: rest => .ok ({ anchor := some name }, { reader with tokens := rest })
  | .tag tag :: rest => do
    return ({ tag := some (← reader.expandTag tag) }, { reader with tokens := rest })
  | _ => .ok ({}, reader)

end Reader

namespace Properties

/-- The kind that the tag asks for, unless it leaves the kind open. -/
def kind? (properties : Properties) : Option Kind :=
  (properties.tag.filter (· != ['!'])).map Kind.ofTag

/-- The kind of a scalar. A tag that leaves the kind open makes it that of a plain one, with a line
break at the end passed over. -/
def scalarKind (properties : Properties) (style : Style) (text : List Char) : Kind :=
  match properties.kind?, style with
  | some kind, _ => kind
  | none, .plain => .scalar (plainKind text)
  | none, .quoted =>
    if properties.tag.isNone then .scalar .text
    else
      let line := if text.getLast? == some '\n' then text.dropLast else text
      .scalar (plainKind (if line.isEmpty then text else line))

def scalarNode (properties : Properties) (style : Style) (content : Content) : Node :=
  .scalar (properties.scalarKind style content.text) content

def sequenceNode (properties : Properties) (items : List Node) : Node :=
  .sequence (properties.kind?.getD .sequence) items

def mappingNode (properties : Properties) (entries : List (Node × Node)) : Node :=
  .mapping (properties.kind?.getD .mapping) entries

end Properties

/-- Where a node stands: it may be a block, and a sequence in a mapping need not be indented. -/
inductive Position
  | flow
  | block
  | blockValue
  deriving DecidableEq

mutual

def readNode (position : Position) : (fuel : Nat) → Reader → Except Fault (Node × Reader)
  | 0, _ => .error .malformed
  | fuel + 1, reader =>
    match reader.head with
    | .alias name => reader.readAlias name
    | _ => do
      let (properties, reader) ← reader.properties
      let reader ← reader.openAnchor properties
      let (node, reader) ← readContent position properties fuel reader
      return reader.closeAnchor properties node

/-- Reads a node behind its properties, without which it may not be empty. -/
def readContent (position : Position) (properties : Properties) :
    (fuel : Nat) → Reader → Except Fault (Node × Reader)
  | 0, _ => .error .malformed
  | fuel + 1, reader =>
    let rest := reader.drop
    match reader.head, position with
    | .blockEntry, .blockValue => do
      let (items, reader) ← readIndentless fuel reader
      return (properties.sequenceNode items, reader)
    | .scalar style content, _ => .ok (properties.scalarNode style content, rest)
    | .flowSequence, _ => do
      let (items, reader) ← readFlowItems true fuel rest
      return (properties.sequenceNode items, reader)
    | .flowMapping, _ => do
      let (entries, reader) ← readFlowEntries true fuel rest
      return (properties.mappingNode entries, reader)
    | .blockSequence, .block | .blockSequence, .blockValue => do
      let (items, reader) ← readBlockItems fuel rest
      return (properties.sequenceNode items, reader)
    | .blockMapping, .block | .blockMapping, .blockValue => do
      let (entries, reader) ← readBlockEntries fuel rest
      return (properties.mappingNode entries, reader)
    | _, _ =>
      if properties.anchor.isSome || properties.tag.isSome then
        .ok (properties.scalarNode .plain { text := [] }, reader)
      else .error reader.refusal

/-- Reads a node, or an empty one in front of the given tokens. -/
def readUnless (position : Position) (stops : List Token) :
    (fuel : Nat) → Reader → Except Fault (Node × Reader)
  | 0, _ => .error .malformed
  | fuel + 1, reader =>
    if stops.contains reader.head then .ok (Node.empty, reader)
    else readNode position fuel reader

def readBlockItems : (fuel : Nat) → Reader → Except Fault (List Node × Reader)
  | 0, _ => .error .malformed
  | fuel + 1, reader =>
    match reader.head with
    | .blockEntry => do
      let (item, reader) ← readUnless .block [.blockEntry, .blockEnd] fuel reader.drop
      let (items, reader) ← readBlockItems fuel reader
      return (item :: items, reader)
    | .blockEnd => .ok ([], reader.drop)
    | _ => .error reader.refusal

/-- Reads the items of a sequence that is no more indented than the mapping around it. -/
def readIndentless : (fuel : Nat) → Reader → Except Fault (List Node × Reader)
  | 0, _ => .error .malformed
  | fuel + 1, reader =>
    match reader.head with
    | .blockEntry => do
      let (item, reader) ←
        readUnless .block [.blockEntry, .key, .value, .blockEnd] fuel reader.drop
      let (items, reader) ← readIndentless fuel reader
      return (item :: items, reader)
    | _ => .ok ([], reader)

/-- Reads a node behind the given token, or an empty one where the token is missing. -/
def readBehind (token : Token) (position : Position) (stops : List Token) :
    (fuel : Nat) → Reader → Except Fault (Node × Reader)
  | 0, _ => .error .malformed
  | fuel + 1, reader =>
    if reader.head == token then readUnless position stops fuel reader.drop
    else .ok (Node.empty, reader)

def readBlockEntries : (fuel : Nat) → Reader → Except Fault (List (Node × Node) × Reader)
  | 0, _ => .error .malformed
  | fuel + 1, reader =>
    let stops := [.key, .value, .blockEnd]
    match reader.head with
    | .key => do
      let (key, reader) ← readUnless .blockValue stops fuel reader.drop
      let (value, reader) ← readBehind .value .blockValue stops fuel reader
      let (entries, reader) ← readBlockEntries fuel reader
      return ((key, value) :: entries, reader)
    | .blockEnd => .ok ([], reader.drop)
    | _ => .error reader.refusal

/-- Reads the items of a sequence in brackets up to their end. An item may be a mapping of one
entry. -/
def readFlowItems (first : Bool) : (fuel : Nat) → Reader → Except Fault (List Node × Reader)
  | 0, _ => .error .malformed
  | fuel + 1, reader => do
    if reader.head == .flowSequenceEnd then return ([], reader.drop)
    let reader ←
      if first then pure reader
      else if reader.head == .flowEntry then pure reader.drop
      else throw reader.refusal
    match reader.head with
    | .flowSequenceEnd => return ([], reader.drop)
    | .key =>
      let (key, reader) ←
        readUnless .flow [.value, .flowEntry, .flowSequenceEnd] fuel reader.drop
      let (value, reader) ← readBehind .value .flow [.flowEntry, .flowSequenceEnd] fuel reader
      let (items, reader) ← readFlowItems false fuel reader
      return (.mapping .mapping [(key, value)] :: items, reader)
    | _ =>
      let (item, reader) ← readNode .flow fuel reader
      let (items, reader) ← readFlowItems false fuel reader
      return (item :: items, reader)

def readFlowEntries (first : Bool) :
    (fuel : Nat) → Reader → Except Fault (List (Node × Node) × Reader)
  | 0, _ => .error .malformed
  | fuel + 1, reader => do
    if reader.head == .flowMappingEnd then return ([], reader.drop)
    let reader ←
      if first then pure reader
      else if reader.head == .flowEntry then pure reader.drop
      else throw reader.refusal
    match reader.head with
    | .flowMappingEnd => return ([], reader.drop)
    | .key =>
      let (key, reader) ←
        readUnless .flow [.value, .flowEntry, .flowMappingEnd] fuel reader.drop
      let (value, reader) ← readBehind .value .flow [.flowEntry, .flowMappingEnd] fuel reader
      let (entries, reader) ← readFlowEntries false fuel reader
      return ((key, value) :: entries, reader)
    | _ =>
      let (key, reader) ← readNode .flow fuel reader
      let (entries, reader) ← readFlowEntries false fuel reader
      return ((key, Node.empty) :: entries, reader)

end

/-- The directives in front of a document: at most one version, which must be of the first kind, and
one meaning for each handle. -/
def readDirectives (versioned : Bool) (handles : List (List Char × List Char)) :
    List Token → Except Fault (List (List Char × List Char) × List Token)
  | .version major :: rest =>
    if versioned || major != 1 then .error .malformed else readDirectives true handles rest
  | .tagDirective handle start :: rest =>
    if (handles.lookup handle).isSome then .error .malformed
    else readDirectives versioned ((handle, start) :: handles) rest
  | .otherDirective :: rest => readDirectives versioned handles rest
  | rest => .ok (handles, rest)

def defaultHandles : List (List Char × List Char) :=
  [(['!'], ['!']), (['!', '!'], "tag:yaml.org,2002:".toList)]

def endsDocument : Token → Bool
  | .version _ | .tagDirective .. | .otherDirective | .documentStart | .documentEnd | .textEnd =>
    true
  | _ => false

/-- Whether the token may stand in front of the mark that starts a document, or is that mark. -/
def opensDocument : Token → Bool
  | .documentEnd => false
  | token => endsDocument token

/-- The root of the first document of a text, which is empty if there is none. -/
def readRoot (tokens : List Token) : Except Fault (Node × Reader) :=
  let fuel := 4 * tokens.length + 4
  if tokens == [.textEnd] then .ok (Node.empty, { tokens })
  else if tokens.head?.any opensDocument then do
    let (handles, rest) ← readDirectives false [] tokens
    let reader : Reader := { tokens := rest, handles := handles ++ defaultHandles }
    if reader.head != .documentStart then throw reader.refusal
    else if endsDocument reader.drop.head then return (Node.empty, reader.drop)
    else readNode .block fuel reader.drop
  else readNode .block fuel { tokens, handles := defaultHandles }

def readDocument (tokens : List Token) : Except Fault Node := do
  let (node, reader) ← readRoot tokens
  let rest : Reader := { reader with tokens := reader.tokens.dropWhile (· == .documentEnd) }
  if rest.tokens == [.textEnd] then return node else throw rest.refusal

def value (text : String) : Except Fault Data :=
  match tokens? text.toList with
  | some tokens => readDocument tokens >>= Node.value
  | none => .error .malformed

def read (text : String) : Except Failure Data :=
  (value text).mapError .yaml

end RelSchema.Yaml
