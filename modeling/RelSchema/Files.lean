import RelSchema.Format
import RelSchema.Text.Trim

/-!
Texts in files, and the reading of schema files.
-/
namespace RelSchema

/-- A path without empty parts and parts that stand for the place they are in. Two slashes at its
start are kept apart from one or more of them. -/
def plainPath (path : String) : String :=
  let slashes := (path.toList.takeWhile (· == '/')).length
  let start := if slashes == 2 then "//" else if slashes == 0 then "" else "/"
  let parts := (Format.components path.toList).map String.ofList
  if slashes == 0 && parts.isEmpty then "." else start ++ Text.joinWith "/" parts

/-- Texts under the paths of their files. A path that does not start with a slash starts in the
folder in which the program runs. -/
abbrev Files := Keyed String

namespace Files

/-- The part that stands for the root of all folders. -/
def root : List Char := ['/']

def startOf (path : String) : List (List Char) :=
  if path.startsWith "/" then [root] else []

/-- The parts of a path, the last one first. -/
def trail (path : String) : List (List Char) :=
  (Format.components path.toList).reverse ++ startOf path

/-- Whether a folder with the given trail is there: one in which paths start, or one in which, or
deeper in which, a file lies. -/
def hasFolder (files : Files) (folder : List (List Char)) : Bool :=
  folder.isEmpty || folder == [root] ||
    files.any fun (path, _) => folder.isSuffixOf (trail path).tail

/-- What a path leads to. There is no trail outside of the folders in which paths start, where
nothing is known but the folders around. -/
inductive Place
  | file (text : String)
  | folder (trail? : Option (List (List Char)))
  /-- Nothing, in a folder that is there. -/
  | free (trail? : Option (List (List Char)))

def placeAt (files : Files) (inner : List (List Char)) : Place :=
  match files.find? fun (name, _) => trail name == inner with
  | some (_, text) => .file text
  | none => if files.hasFolder inner then .folder (some inner) else .free (some inner)

/-- The place to which one part of a path leads from a folder; two dots lead out of it. -/
def enter (files : Files) (part : List Char) (trail? : Option (List (List Char))) : Place :=
  match part, trail? with
  | ['.', '.'], some (name :: outer) => .folder (some (if name == root then [root] else outer))
  | ['.', '.'], _ => .folder none
  | part, some trail => files.placeAt (part :: trail)
  | _, none => .free none

/-- The most bytes that the name of a file may have, and that a path may have. -/
def nameLimit : Nat := 255

def pathLimit : Nat := 4095

def follow (files : Files) : Place → List (List Char) → Except Obstacle Place
  | place, [] => .ok place
  | .file _, _ :: _ => .error .throughFile
  | .free _, _ :: _ => .error .missing
  | .folder trail?, part :: parts =>
    if (String.ofList part).utf8ByteSize > nameLimit then .error .tooLong
    else follow files (files.enter part trail?) parts

def place (files : Files) (path : String) : Except Obstacle Place :=
  if path.contains '\x00' then .error .nul
  else if path.utf8ByteSize > pathLimit then .error .tooLong
  else files.follow (.folder (some (startOf path))) (Format.components path.toList)

def text (files : Files) (path : String) : Except Obstacle String :=
  match files.place path with
  | .ok (.file text) => .ok text
  | .ok (.folder _) => .error .folder
  | .ok (.free _) => .error .missing
  | .error obstacle => .error obstacle

/-- The text of a file, whose lines all end in a line feed. -/
def read (files : Files) (path : String) : Except Failure String :=
  match files.text path with
  | .ok text => .ok (.ofList (Text.normalizeLineEnds text.toList))
  | .error obstacle => .error (.file obstacle (plainPath path))

/-- Checks that a file can be written at the path. -/
def checkTarget (files : Files) (path : String) : Except Failure Unit :=
  match files.place path with
  | .ok (.file _) | .ok (.free _) => .ok ()
  | .ok (.folder _) => .error (.file .folder (plainPath path))
  | .error obstacle => .error (.file obstacle (plainPath path))

/-- The path of a file that would be a new one below the folder in which the program runs, without
detours. -/
def newPath? (files : Files) (path : String) : Option String :=
  match files.place path with
  | .ok (.free (some trail)) =>
    if trail.contains root then none
    else some (Text.joinWith "/" (trail.reverse.map String.ofList))
  | _ => none

end Files

/-- Reads a schema file in the format that its extension tells. -/
def Snapshot.loadFile (files : Files) (path : String) (dialectName : Option String)
    (tag : String) : Except Failure Snapshot := do
  let path := plainPath path
  let format ← Format.ofFile path path
  load (← files.read path) format.name dialectName tag

end RelSchema
