import RelSchema.Display.Emoji
import RelSchema.Display.Style
import RelSchema.Failure

/-!
Marked-up texts: tags in square brackets give parts of a text a style. A terminal without styles
shows the text without the tags.
-/
namespace RelSchema.Markup

inductive Part
  | plain (text : List Char)
  /-- What stands between two brackets, and the position of the opening one. -/
  | tag (content : List Char) (position : Nat)

def startsTag (c : Char) : Bool :=
  c.isLower || c == '#' || c == '/' || c == '@'

/-- The content of a tag and the text behind it, given the text behind an opening bracket. -/
def cutTag? (s : List Char) : Option (List Char × List Char) :=
  match s with
  | c :: _ =>
    let content := s.takeWhile fun c => c != '[' && c != ']'
    match startsTag c, s.drop content.length with
    | true, ']' :: rest => some (content, rest)
    | _, _ => none
  | [] => none

def pendingPart (pending : List Char) : List Part :=
  if pending.isEmpty then [] else [.plain pending.reverse]

/-- The parts of a text whose first character is at the position, behind the reversed characters of
a plain part. Backslashes in front of a tag stand for half of them each two, and one that is left
over makes the tag plain text; in front of another bracket one of them is dropped. -/
def parts : (fuel position : Nat) → (pending : List Char) → List Char → List Part
  | 0, _, pending, _ => pendingPart pending
  | _, _, pending, [] => pendingPart pending
  | fuel + 1, position, pending, s =>
    let slashes := s.takeWhile (· == '\\')
    let count := slashes.length
    match s.drop count with
    | [] => pendingPart (slashes ++ pending)
    | '[' :: inner =>
      match cutTag? inner with
      | some (content, rest) =>
        let next := position + count + content.length + 2
        let before := pendingPart pending ++ pendingPart (slashes.drop (count - count / 2))
        if count % 2 == 1 then
          before ++ .plain ('[' :: content ++ [']']) :: parts fuel next [] rest
        else before ++ .tag content (position + count) :: parts fuel next [] rest
      | none => parts fuel (position + count + 1) ('[' :: slashes.drop 1 ++ pending) inner
    | c :: rest => parts fuel (position + count + 1) (c :: slashes ++ pending) rest

/-- The control characters that no terminal is sent. -/
def isDropped (c : Char) : Bool :=
  c == '\x07' || c == '\x08' || c == '\x0b' || c == '\x0c' || c == '\r'

/-- The name of a style, by which a closing tag finds the tag that it closes. -/
def styleName (content : List Char) : String :=
  Display.Style.usualName (content.takeWhile (· != '='))

/-- The text without its tags and with emoji in place of their names; `opened` are the names of the
tags that are open, the last one first. A closing tag has to close one of them. -/
def shown (opened : List String) : List Part → Except Failure (List Char)
  | [] => .ok []
  | .plain text :: rest => do
    return (Display.withEmoji text).filter (!isDropped ·) ++ (← shown opened rest)
  | .tag ('/' :: content) position :: rest =>
    let name := styleName content
    if (content.takeWhile (· != '=')).all Text.isBlank then
      match opened with
      | [] => .error (.nothingToClose position)
      | _ :: outer => shown outer rest
    else if opened.contains name then shown (opened.erase name) rest
    else .error (.unopenedTag (.ofList ('[' :: '/' :: content ++ [']'])) position)
  | .tag content _ :: rest => shown (styleName content :: opened) rest

def plain (text : String) : Except Failure (List Char) :=
  shown [] (parts (text.length + 1) 0 [] text.toList)

end RelSchema.Markup
