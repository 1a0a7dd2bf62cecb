import RelSchema.Keyed
import RelSchema.Text.Class
import RelSchema.Text.Trim

/-!
The arguments of a command: switches, which start with a dash, and operands. A long switch may be
cut short as long as no other one starts like it, short ones may be joined, and a value may stand
behind an equals sign or in the next argument.
-/
namespace RelSchema.Command

/-- What a switch does. -/
inductive Use
  | help
  | mark
  /-- Takes a value, perhaps one of certain values only. -/
  | value (choices : Option (List String))
  deriving DecidableEq, Repr

structure Switch where
  /-- The name under which its value is found. -/
  key : String
  /-- The dashed spellings. -/
  names : List String
  use : Use
  deriving DecidableEq, Repr

/-- Why arguments are not carried out. -/
inductive Stop
  | help
  | usage
  deriving DecidableEq, Repr

/-- What is joined to a switch in one argument, and whether by an equals sign. -/
structure Attached where
  isAfterSign : Bool
  text : List Char

/-- A spelling of a switch, with what is joined to it. -/
structure Spelling where
  switch : Switch
  name : String
  attached? : Option Attached := none

inductive Argument
  /-- Two dashes alone, behind which all arguments are operands. -/
  | divider
  | operand (text : String)
  | switch (spelling : Spelling)
  | unknown

def spellings (switches : List Switch) : List (String × Switch) :=
  switches.flatMap fun switch => switch.names.map fun name => (name, switch)

/-- The switch of exactly this name, in front of an equals sign if there is one. -/
def exactSpelling? (switches : List Switch) (text : String) : Option Spelling :=
  match (spellings switches).lookup text with
  | some switch => some { switch, name := text }
  | none => do
    let (start, value) ← Text.cutAt? '=' text.toList
    let switch ← (spellings switches).lookup (.ofList start)
    return { switch, name := .ofList start, attached? := some ⟨true, value⟩ }

/-- The switches whose names start with the text in front of an equals sign. -/
def longSpellings (switches : List Switch) (text : List Char) : List Spelling :=
  let (start, attached?) : List Char × Option Attached := match Text.cutAt? '=' text with
    | some (start, value) => (start, some ⟨true, value⟩)
    | none => (text, none)
  (spellings switches).filterMap fun (name, switch) =>
    if start.isPrefixOf name.toList then some { switch, name, attached? } else none

/-- The switches whose names are the first two characters of the text, to which the others are
joined, or start with the whole text. -/
def shortSpellings (switches : List Switch) (text : List Char) : List Spelling :=
  (spellings switches).filterMap fun (name, switch) =>
    if name.toList == text.take 2 then
      some { switch, name, attached? := some ⟨false, text.drop 2⟩ }
    else if text.isPrefixOf name.toList then some { switch, name }
    else none

/-- Whether the text is a negative number, perhaps with a line feed behind it. -/
def isNegativeNumber (text : List Char) : Bool :=
  let digits := ((Text.dropSuffix? ['\n'] text).getD text).drop 1
  match Text.cutAt? '.' digits with
  | some (whole, places) => whole.all Text.isDecimal && !places.isEmpty && places.all Text.isDecimal
  | none => !digits.isEmpty && digits.all Text.isDecimal

/-- The kind of an argument in front of the divider; an ambiguous one is refused. -/
def classify (switches : List Switch) (text : String) : Except Stop Argument :=
  match text.toList with
  | '-' :: second :: _ =>
    match exactSpelling? switches text with
    | some spelling => .ok (.switch spelling)
    | none =>
      let found :=
        if second == '-' then longSpellings switches text.toList
        else shortSpellings switches text.toList
      match found with
      | [spelling] => .ok (.switch spelling)
      | _ :: _ => .error .usage
      | [] =>
        if isNegativeNumber text.toList || text.toList.contains ' ' then .ok (.operand text)
        else .ok .unknown
  | _ => .ok (.operand text)

/-- The kinds of all arguments, each with its text. -/
def classifyAll (switches : List Switch) : List String → Except Stop (List (String × Argument))
  | [] => .ok []
  | "--" :: texts => .ok (("--", .divider) :: texts.map fun text => (text, .operand text))
  | text :: texts => do
    let argument ← classify switches text
    return (text, argument) :: (← classifyAll switches texts)

structure Told where
  values : Keyed String := []
  marks : List String := []
  operands : List String := []
  /-- Whether something has no place among the arguments. -/
  hasExtra : Bool := false

/-- A switch with its value, if it takes one. -/
abbrev Taken := Switch × Option String

/-- The switches that one argument spells with the arguments behind it, whether it ends in a letter
that is no switch, and the arguments that are left. -/
def expand (switches : List Switch) (rest : List (String × Argument)) :
    (fuel : Nat) → Spelling → Except Stop (List Taken × Bool × List (String × Argument))
  | 0, _ => .error .usage
  | fuel + 1, spelling =>
    let switch := spelling.switch
    match switch.use, spelling.attached? with
    | .value _, some attached => .ok ([(switch, some (.ofList attached.text))], false, rest)
    | .value _, none =>
      match rest with
      | (_, .operand text) :: rest => .ok ([(switch, some text)], false, rest)
      | _ => .error .usage
    | _, none => .ok ([(switch, none)], false, rest)
    | _, some ⟨isAfterSign, joined⟩ =>
      match joined with
      | [] => .error .usage
      | letter :: others =>
        if spelling.name.startsWith "--" || isAfterSign || letter == '-' then .error .usage
        else
          let name := String.ofList ['-', letter]
          match (spellings switches).lookup name with
          | none => .ok ([(switch, none)], true, rest)
          | some next => do
            let attached? : Option Attached := match others with
              | [] => none
              | '=' :: value => some ⟨true, value⟩
              | _ => some ⟨false, others⟩
            let (taken, hasExtra, rest) ←
              expand switches rest fuel { switch := next, name, attached? }
            return ((switch, none) :: taken, hasExtra, rest)

def Told.take (told : Told) : Taken → Except Stop Told
  | (switch, value?) =>
    match switch.use with
    | .help => .error .help
    | .mark => .ok { told with marks := switch.key :: told.marks }
    | .value choices =>
      let value := value?.getD ""
      if (choices.getD [value]).contains value then
        .ok { told with values := told.values.set switch.key value }
      else .error .usage

def Told.takeSpelling (switches : List Switch) (told : Told) (spelling : Spelling)
    (rest : List (String × Argument)) : Except Stop (Told × List (String × Argument)) := do
  let length := (spelling.attached?.map (·.text.length)).getD 0
  let (taken, hasExtra, rest) ← expand switches rest (length + 1) spelling
  let told ← taken.foldlM Told.take told
  return ({ told with hasExtra := told.hasExtra || hasExtra }, rest)

def isDivider : String × Argument → Bool
  | (_, .divider) => true
  | _ => false

/-- The next operand, with a divider on either side of it, and the arguments behind it. -/
def cutOperand? (arguments : List (String × Argument)) :
    Option (String × List (String × Argument)) :=
  match arguments.dropWhile isDivider with
  | (_, .operand text) :: rest => some (text, rest.dropWhile isDivider)
  | _ => none

/-- Reads arguments, of which at most `count` are operands. -/
def readArguments (switches : List Switch) (count : Nat) :
    (fuel : Nat) → Told → List (String × Argument) → Except Stop Told
  | 0, told, _ => .ok told
  | _, told, [] => .ok told
  | fuel + 1, told, (_, .unknown) :: rest =>
    readArguments switches count fuel { told with hasExtra := true } rest
  | fuel + 1, told, (_, .switch spelling) :: rest => do
    let (told, rest) ← told.takeSpelling switches spelling rest
    readArguments switches count fuel told rest
  | fuel + 1, told, argument :: rest =>
    match if told.operands.length < count then cutOperand? (argument :: rest) else none with
    | some (text, rest) =>
      readArguments switches count fuel { told with operands := told.operands ++ [text] } rest
    | none => readArguments switches count fuel { told with hasExtra := true } rest

def tell (switches : List Switch) (count : Nat) (texts : List String) : Except Stop Told := do
  let arguments ← classifyAll switches texts
  readArguments switches count arguments.length {} arguments

/-- Reads the arguments in front of the name of a command, and the texts from that name on. -/
def readOuter (switches : List Switch) :
    (fuel : Nat) → Told → List (String × Argument) → Except Stop (Told × List String)
  | 0, told, _ => .ok (told, [])
  | _, told, [] => .ok (told, [])
  | fuel + 1, told, (_, .unknown) :: rest =>
    readOuter switches fuel { told with hasExtra := true } rest
  | fuel + 1, told, (_, .switch spelling) :: rest => do
    let (told, rest) ← told.takeSpelling switches spelling rest
    readOuter switches fuel told rest
  | _, told, rest => .ok (told, rest.map (·.1))

end RelSchema.Command
