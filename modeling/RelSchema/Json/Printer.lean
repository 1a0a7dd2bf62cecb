import RelSchema.Data.Basic
import RelSchema.Text.Quoted

/-!
Writing JSON on indented lines.
-/
namespace RelSchema.Json

/-- A character inside a text. Only quotes, backslashes and control characters are escaped. -/
def escapedChar (c : Char) : List Char :=
  match c with
  | '"' => ['\\', '"']
  | '\\' => ['\\', '\\']
  | '\n' => ['\\', 'n']
  | '\r' => ['\\', 'r']
  | '\t' => ['\\', 't']
  | '\x08' => ['\\', 'b']
  | '\x0c' => ['\\', 'f']
  | _ => if c.toNat < 0x20 then '\\' :: 'u' :: Text.hexDigits 4 c.toNat else [c]

def renderText (s : String) : List Char :=
  '"' :: s.toList.flatMap escapedChar ++ ['"']

/-- The start of a line with two spaces for each level. -/
def newLine (level : Nat) : List Char :=
  '\n' :: List.replicate (2 * level) ' '

mutual

/-- A value whose lines are indented at least to the level. Values that JSON lacks become `null`. -/
def render (level : Nat) : Data → List Char
  | .null | .brokenText | .other => "null".toList
  | .bool b => (if b then "true" else "false").toList
  | .int n => (toString n).toList
  | .double x => x.toText.toList
  | .text s => renderText s
  | .list items => '[' :: renderItems level true items ++ [']']
  | .record members => '{' :: renderMembers level true members ++ ['}']

/-- The items on lines of their own, the first of them behind no comma. -/
def renderItems (level : Nat) (first : Bool) : List Data → List Char
  | [] => if first then [] else newLine level
  | item :: items =>
    (if first then [] else [',']) ++ newLine (level + 1) ++ render (level + 1) item ++
      renderItems level false items

def renderMembers (level : Nat) (first : Bool) : List (Data × Data) → List Char
  | [] => if first then [] else newLine level
  | member :: members =>
    (if first then [] else [',']) ++ newLine (level + 1) ++ renderMember (level + 1) member ++
      renderMembers level false members

def renderMember (level : Nat) : Data × Data → List Char
  | (name, value) => render level name ++ ':' :: ' ' :: render level value

end

/-- The text of a value. -/
def write (data : Data) : String :=
  .ofList (render 0 data)

end RelSchema.Json
