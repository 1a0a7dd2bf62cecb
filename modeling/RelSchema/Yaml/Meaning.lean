import RelSchema.Data.Basic
import RelSchema.Number.Double
import RelSchema.Text.Bytes
import RelSchema.Text.Case
import RelSchema.Yaml.Fault
import RelSchema.Yaml.Node

/-!
What the nodes of a YAML document mean: their values, and what they are as keys and under a merge
key. Of several faults in a document the one nearest to its root is met first, and of those at one
depth the first.
-/
namespace RelSchema.Yaml

/-- A value, or a fault and its depth below a node. -/
abbrev Attempt (α : Type) := Except (Nat × Fault) α

namespace Attempt

def fault (fault : Fault) : Attempt α :=
  .error (0, fault)

def of (result : Except Fault α) : Attempt α :=
  result.mapError fun fault => (0, fault)

/-- What is made of a value one level deeper. -/
def within (f : α → β) : Attempt α → Attempt β
  | .ok a => .ok (f a)
  | .error (depth, fault) => .error (depth + 1, fault)

/-- Both values put together, or the fault that is met first. -/
def both (f : α → β → γ) (a : Attempt α) (b : Attempt β) : Attempt γ :=
  match a, b with
  | .ok a, .ok b => .ok (f a b)
  | .ok _, .error fault | .error fault, .ok _ => .error fault
  | .error first, .error second => .error (if second.1 < first.1 then second else first)

/-- All values, or the fault that is met first. -/
def all (attempts : List (Attempt α)) : Attempt (List α) :=
  attempts.foldr (both List.cons) (.ok [])

end Attempt

/-- The truth value that a word in lower case stands for. -/
def truth? (word : String) : Option Bool :=
  (boolWords.map fun (word, value) => (Text.lower word, value)).lookup word

/-- The number that places in base sixty make up. -/
def sexagesimalInt (places : List Int) : Int :=
  places.foldl (fun n place => n * 60 + place) 0

/-- The integer that a numeral without a sign spells: in base two, sixteen, eight or sixty by its
start and its colons, or else in base ten. -/
def readMagnitude (s : List Char) : Except Fault Int :=
  let inBase (base : Nat) (s : List Char) : Except Fault Int :=
    (Number.readInt base s).mapError .int
  match s with
  | [] => .error .emptyNumber
  | '0' :: 'b' :: digits => inBase 2 digits
  | '0' :: 'x' :: digits => inBase 16 digits
  | '0' :: _ => inBase 8 s
  | _ =>
    if s.contains ':' then do
      return sexagesimalInt (← (Text.splitAt ':' s).mapM (inBase 10))
    else inBase 10 s

/-- The integer that a scalar spells. Underscores in it count for nothing. -/
def readInt (s : List Char) : Except Fault Int := do
  let (isNegative, unsigned) := Number.cutSign (s.filter (· != '_'))
  let magnitude ← readMagnitude unsigned
  return if isNegative then -magnitude else magnitude

/-- The sum of places in base sixty from the last one on, each rounded on its own. -/
def sexagesimalDouble (unit : Nat) (sum : Double) : List Double → Except Fault Double
  | [] => .ok sum
  | place :: places =>
    match place.timesNat? unit with
    | some addend => sexagesimalDouble (unit * 60) (sum.add addend) places
    | none => .error .oversizedPlace

/-- The double that a scalar spells. Underscores in it and the case of letters count for nothing. -/
def readDouble (s : List Char) : Except Fault Double := do
  let lowered := (Text.lower (.ofList (s.filter (· != '_')))).toList
  let (isNegative, unsigned) := Number.cutSign lowered
  let inBaseTen (s : List Char) : Except Fault Double :=
    match Number.readDouble? s with
    | some value => .ok value
    | none => .error (.double (.ofList s))
  if lowered.isEmpty then throw .emptyNumber
  let magnitude ←
    if unsigned == ".inf".toList then pure (.infinite false)
    else if unsigned == ".nan".toList then pure .nan
    else if unsigned.contains ':' then do
      let places ← (Text.splitAt ':' unsigned).mapM inBaseTen
      sexagesimalDouble 1 (.finite false 0 0) places.reverse
    else inBaseTen unsigned
  return if isNegative then magnitude.negate else magnitude

/-- A date or a time is a value that no field accepts. -/
def readMoment (s : List Char) : Except Fault Data :=
  match readTimestamp? 1 s with
  | none => .error .noTimestamp
  | some moment => match moment.problem? with
    | some problem => .error (.date problem)
    | none => .ok .other

def Content.data (content : Content) : Data :=
  if content.isBroken then .brokenText else .text (.ofList content.text)

def Content.value (kind : ScalarKind) (content : Content) : Except Fault Data :=
  match kind with
  | .null => .ok .null
  | .bool =>
    let word := Text.lower (.ofList content.text)
    match truth? word with
    | some value => .ok (.bool value)
    | none => .error (.noTruth word)
  | .int => (readInt content.text).map .int
  | .double => (readDouble content.text).map .double
  | .timestamp => readMoment content.text
  | .text => .ok content.data
  | .merge | .equals => .error .malformed

def Content.bytes (content : Content) : Except Fault Data :=
  if content.isBroken || content.text.any (128 ≤ ·.toNat) then .error .malformed
  else match Text.ofBase64? content.text with
    | none => .error .malformed
    | some bytes => match String.fromUTF8? ⟨(bytes.map Nat.toUInt8).toArray⟩ with
      | some text => .ok (.text text)
      | none => .ok .brokenText

/-- The key and the value of a member of a mapping. -/
abbrev Member := Attempt Data × Attempt Data

/-- What a node means in each of the places where it can stand. -/
structure Meaning where
  kind : Kind
  isMapping : Bool := false
  /-- The text where a scalar is asked for. -/
  content : Option Content := none
  /-- The items of a sequence. -/
  items : Attempt (List Data) := .fault .malformed
  /-- The items of a sequence of mappings with one entry each. -/
  pairs : Attempt (List Data) := .fault .malformed
  /-- The members of a mapping, with those of other mappings that are merged in. -/
  members : Option (List Member) := none
  /-- The members that are merged in where the node stands under a merge key. -/
  merged : Option (List Member) := none
  /-- The only entry of a mapping. -/
  pair : Option Member := none

namespace Meaning

/-- The members of a mapping, of which each key occurs once and the last value counts. -/
def record (meaning : Meaning) : Attempt (List (Data × Data)) :=
  match meaning.members with
  | none => .fault .malformed
  | some members =>
    (Attempt.all (members.map fun (key, value) => .both Prod.mk key value)).map fun members =>
      members.foldl (fun set member => Data.setMember member.1 member.2 set) []

/-- The value of a scalar by a reading of its text. -/
def ofContent (meaning : Meaning) (read : Content → Except Fault Data) : Attempt Data :=
  .of (meaning.content.elim (.error .malformed) read)

/-- The value of the node. What a collection holds lies one level deeper than it. -/
def value (meaning : Meaning) : Attempt Data :=
  match meaning.kind with
  | .scalar .timestamp =>
    if meaning.isMapping && meaning.content.isSome then .fault .collectionTimestamp
    else meaning.ofContent (·.value .timestamp)
  | .scalar kind => meaning.ofContent (·.value kind)
  | .binary => meaning.ofContent Content.bytes
  | .sequence => meaning.items.within .list
  | .pairs => meaning.pairs.within .list
  | .mapping => meaning.record.within .record
  | .set => meaning.record.within fun members => .list (members.map Prod.fst)
  | .unknown => .fault .malformed

/-- The node as a key, which no collection can be. -/
def key (meaning : Meaning) : Attempt Data :=
  match meaning.kind with
  | .scalar .equals => meaning.ofContent fun content => .ok content.data
  | .binary => meaning.value.map fun _ => .other
  | .scalar _ | .unknown => meaning.value
  | .sequence | .pairs | .mapping | .set => .fault .malformed

def isMergeKey (meaning : Meaning) : Bool :=
  meaning.kind == .scalar .merge

def ofScalar (kind : Kind) (content : Content) : Meaning :=
  { kind, content := some content }

/-- The value of a mapping with one entry as an item of pairs. -/
def pairValue (meaning : Meaning) : Attempt Data :=
  match meaning.pair with
  | some (key, value) => .both (fun _ _ => .other) key value
  | none => .fault .malformed

/-- Of several mappings that are merged in the earlier ones count. -/
def ofSequence (kind : Kind) (items : List Meaning) : Meaning :=
  { kind
    items := .all (items.map value)
    pairs := .all (items.map pairValue)
    merged := (items.mapM members).map fun members => members.reverse.flatten }

/-- What is merged in gives way to the own members. -/
def membersOf (entries : List (Meaning × Meaning)) : Option (List Member) := do
  let (merging, own) := entries.partition (·.1.isMergeKey)
  return (← merging.mapM (·.2.merged)).flatten ++ own.map fun (key, value) => (key.key, value.value)

def ofMapping (kind : Kind) (entries : List (Meaning × Meaning)) : Meaning :=
  let members := membersOf entries
  { kind
    isMapping := true
    content := (entries.find? (·.1.kind == .scalar .equals)).bind (·.2.content)
    members
    merged := members
    pair := match entries with
      | [(key, value)] => some (key.value, value.value)
      | _ => none }

end Meaning

namespace Node

mutual

def meaning : Node → Meaning
  | scalar kind content => .ofScalar kind content
  | sequence kind items => .ofSequence kind (itemMeanings items)
  | mapping kind entries => .ofMapping kind (entryMeanings entries)
  | loop _ => { kind := .unknown }

def itemMeanings : List Node → List Meaning
  | [] => []
  | item :: items => item.meaning :: itemMeanings items

def entryMeanings : List (Node × Node) → List (Meaning × Meaning)
  | [] => []
  | (key, value) :: entries => (key.meaning, value.meaning) :: entryMeanings entries

end

/-- The value of the node as that of a document, where a set with items is none that is accepted. -/
def value (node : Node) : Except Fault Data :=
  match node.meaning.value with
  | .error (_, fault) => .error fault
  | .ok value => .ok (if node.kind == .set && value.isSubstantial then .other else value)

end Node

end RelSchema.Yaml
