import RelSchema.Display.EmojiTable
import RelSchema.Text.Case
import RelSchema.Text.Trim

/-!
Emoji in texts: a name between two colons stands for the emoji of that name.
-/
namespace RelSchema.Display

def emoji? (name : String) : Option (List Char) :=
  (Text.words emojiNames.toList).findSome? fun entry =>
    Text.dropPrefix? (name.toList ++ ['=']) entry

/-- The endings of a code that ask for one of the two forms of an emoji, and the characters that
select them. -/
def emojiForms : List (String × Char) := [("-emoji", '\ufe0f'), ("-text", '\ufe0e')]

/-- The emoji of a code, whose case does not count. -/
def emojiOfCode? (code : List Char) : Option (List Char) :=
  let form? := emojiForms.findSome? fun (ending, selector) =>
    (Text.dropPrefix? ending.toList.reverse code.reverse).map fun name => (name.reverse, [selector])
  let (name, selector) := form?.getD (code, [])
  (emoji? (Text.lower (.ofList name))).map (· ++ selector)

/-- The parts of a text between its colons put together again. A part without blanks that stands
between two colons is a code, which takes both of them, whether it is known or not. -/
def joinCodes : List (List Char) → List Char
  | [] => []
  | [last] => last
  | [before, last] => before ++ ':' :: last
  | before :: code :: after :: rest =>
    if code.any Text.isBlank then before ++ ':' :: joinCodes (code :: after :: rest)
    else
      let shown := (emojiOfCode? code).getD (':' :: code ++ [':'])
      before ++ shown ++ joinCodes (after :: rest)

def withEmoji (s : List Char) : List Char :=
  joinCodes (Text.splitAt ':' s)

end RelSchema.Display
