import RelSchema.Display.WidthTable
import RelSchema.Text.Trim

/-!
Lines of a terminal: how many columns a text takes, and how it is broken into lines that fit.
-/
namespace RelSchema.Display

/-- The number of columns of a terminal that a character takes. -/
def charWidth (c : Char) : Nat :=
  if c.toNat < 0x20 || (0x7f ≤ c.toNat && c.toNat < 0xa0) then 0
  else if c.toNat < 0x300 then 1
  else if zeroWidthRanges.contains c then 0
  else if wideRanges.contains c then 2
  else 1

def width (s : List Char) : Nat :=
  s.foldl (fun total c => total + charWidth c) 0

def spaces (count : Nat) : List Char :=
  List.replicate count ' '

/-- The line with spaces in place of tabs, which reach up to the next eighth column; `column` is the
one in which the line starts. -/
def expandTabs (column : Nat) : List Char → List Char
  | [] => []
  | '\t' :: rest =>
    let count := 8 - column % 8
    spaces count ++ expandTabs (column + count) rest
  | c :: rest => c :: expandTabs (column + charWidth c) rest

/-- What becomes of a word that is wider than a line. -/
inductive Overflow
  /-- It goes on in the next line. -/
  | fold
  /-- An ellipsis stands for the rest of it. -/
  | ellipsis
  deriving DecidableEq

/-- The words of a text that starts with no blank, each with the blanks behind it. -/
def words : List Char → List (List Char)
  | [] => []
  | c :: rest =>
    match words rest with
    | [] => [[c]]
    | word :: others =>
      if Text.isBlank c && !word.head?.any Text.isBlank then [c] :: word :: others
      else (c :: word) :: others

/-- The words of a text, of which the first one has the blanks in front of it as well. A text of
blanks alone has none. -/
def lineWords (s : List Char) : List (List Char) :=
  match words (s.dropWhile Text.isBlank) with
  | [] => []
  | word :: others => (s.takeWhile Text.isBlank ++ word) :: others

/-- The text in pieces that fit into the columns, `used` of which are taken in front of the
first. -/
def chopped (total used : Nat) : List Char → List (List Char)
  | [] => [[]]
  | c :: rest =>
    let fits := used + charWidth c ≤ total
    let pieces := chopped total (if fits then used + charWidth c else charWidth c) rest
    let pieces := (c :: pieces.headD []) :: pieces.drop 1
    if fits then pieces else [] :: pieces

/-- The words put into lines behind a line so far, which is `used` columns wide. Blanks at the end
of a line may reach beyond it. -/
def filled (overflow : Overflow) (total : Nat) (line : List Char) (used : Nat) :
    List (List Char) → List (List Char)
  | [] => [line]
  | word :: others =>
    let length := width (Text.trimRight word)
    let ended := if line.isEmpty then [] else [line]
    if used + length ≤ total then
      filled overflow total (line ++ word) (used + width word) others
    else if overflow == .fold && total < length then
      let pieces := chopped total 0 word
      let last := pieces.getLastD []
      ended ++ pieces.dropLast ++ filled overflow total last (width last) others
    else ended ++ filled overflow total word (width word) others

/-- The line without so many blanks at its end that it has `total` characters, as far as it has
blanks. -/
def withoutExcess (total : Nat) (line : List Char) : List Char :=
  let blanks := (line.reverse.takeWhile Text.isBlank).length
  line.take (line.length - min blanks (line.length - total))

/-- The start of a text that fits into the columns, with a space in place of half a character. -/
def cropped (total : Nat) : List Char → List Char
  | [] => []
  | c :: rest =>
    if total == 0 then []
    else if charWidth c ≤ total then c :: cropped (total - charWidth c) rest
    else [' ']

/-- The line, unless it is too wide. -/
def truncated (overflow : Overflow) (total : Nat) (line : List Char) : List Char :=
  if width line ≤ total then line
  else match overflow with
    | .fold => cropped total line
    | .ellipsis => cropped (total - 1) line ++ ['…']

/-- The lines that a text without line breaks takes. -/
def wrappedLine (overflow : Overflow) (total : Nat) (line : List Char) : List (List Char) :=
  let line := expandTabs 0 line
  let lines := match lineWords line with
    | [] => [line]
    | words => filled overflow total [] 0 words
  lines.map (withoutExcess total)

def wrapped (overflow : Overflow) (total : Nat) (text : List Char) : List (List Char) :=
  (Text.splitAt '\n' text).flatMap (wrappedLine overflow total)

end RelSchema.Display
