import RelSchema.Yaml.Plain
import RelSchema.Yaml.Token

/-!
The nodes of a YAML document, before anything is known of their values. An alias inside of the node
that it names would make a node without an end; such a node is followed a few rounds only.
-/
namespace RelSchema.Yaml

/-- The kinds of nodes that a tag can ask for. -/
inductive Kind
  | scalar (kind : ScalarKind)
  | binary
  | sequence
  | pairs
  | mapping
  | set
  /-- A tag that stands for nothing. -/
  | unknown
  deriving DecidableEq

def Kind.ofTag (tag : List Char) : Kind :=
  match (Text.dropPrefix? "tag:yaml.org,2002:".toList tag).map String.ofList with
  | some "null" => .scalar .null
  | some "bool" => .scalar .bool
  | some "int" => .scalar .int
  | some "float" => .scalar .double
  | some "timestamp" => .scalar .timestamp
  | some "str" => .scalar .text
  | some "merge" => .scalar .merge
  | some "value" => .scalar .equals
  | some "binary" => .binary
  | some "seq" => .sequence
  | some "omap" | some "pairs" => .pairs
  | some "map" => .mapping
  | some "set" => .set
  | _ => .unknown

inductive Node
  | scalar (kind : Kind) (content : Content)
  | sequence (kind : Kind) (items : List Node)
  | mapping (kind : Kind) (entries : List (Node × Node))
  /-- An alias inside of the node of the name. -/
  | loop (name : List Char)

namespace Node

def kind : Node → Kind
  | scalar kind _ | sequence kind _ | mapping kind _ => kind
  | loop _ => .unknown

/-- The node of a plain scalar without characters. -/
def empty : Node :=
  scalar (.scalar .null) { text := [] }

def emptied : Node → Node
  | sequence kind _ => sequence kind []
  | mapping kind _ => mapping kind []
  | node => node

mutual

def closed (name : List Char) (inner : Node) : Node → Node
  | scalar kind content => scalar kind content
  | sequence kind items => sequence kind (closedItems name inner items)
  | mapping kind entries => mapping kind (closedEntries name inner entries)
  | loop other => if other == name then inner else loop other

def closedItems (name : List Char) (inner : Node) : List Node → List Node
  | [] => []
  | item :: items => closed name inner item :: closedItems name inner items

def closedEntries (name : List Char) (inner : Node) : List (Node × Node) → List (Node × Node)
  | [] => []
  | (key, value) :: entries =>
    (closed name inner key, closed name inner value) :: closedEntries name inner entries

end

/-- The node in which loops to the name lead into the node itself, for a number of rounds. -/
def unrolled (name : List Char) (node : Node) : (rounds : Nat) → Node
  | 0 => node.emptied
  | rounds + 1 => closed name (node.unrolled name rounds) node

/-- The number of rounds that a loop is followed, which is more than the depth of any record. -/
def rounds : Nat := 6

end Node

end RelSchema.Yaml
