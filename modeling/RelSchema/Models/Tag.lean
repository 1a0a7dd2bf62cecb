import RelSchema.Keyed
import RelSchema.Text.Case
import RelSchema.Text.Trim

/-!
Annotations of fields: tags with quoted texts, one of which holds options.
-/
namespace RelSchema.Models

abbrev Options := Keyed String

namespace Options

/-- The value of an option, unless it is empty. -/
def given? (options : Options) (key : String) : Option String :=
  (Keyed.get? options key).filter (· != "")

end Options

/-- The text between quotes in front of which the rest stands, escapes included, and what is behind
it. A backslash escapes any character but a line break. -/
def quotedText? : List Char → Option (List Char × List Char)
  | [] => none
  | '"' :: rest => some ([], rest)
  | ['\\'] => none
  | '\\' :: c :: rest =>
    if c == '\n' then none
    else (quotedText? rest).map fun (text, rest) => ('\\' :: c :: text, rest)
  | c :: rest => (quotedText? rest).map fun (text, rest) => (c :: text, rest)

/-- The tags of an annotation, each a word with a quoted text behind a colon; `word` is the reversed
word in front of the text, and `skip` counts the characters that belong to the last tag. -/
def tagsFrom (skip : Nat) (word : List Char) : List Char → List (List Char × List Char)
  | [] => []
  | c :: rest =>
    match skip with
    | skip + 1 => tagsFrom skip [] rest
    | 0 =>
      if Text.isWordChar c then tagsFrom 0 (c :: word) rest
      else if c == ':' && !word.isEmpty && rest.head? == some '"' then
        match quotedText? (rest.drop 1) with
        | some (text, _) => (word.reverse, text) :: tagsFrom (text.length + 2) [] rest
        | none => tagsFrom 0 [] rest
      else tagsFrom 0 [] rest

def tags (text : List Char) : List (List Char × List Char) :=
  tagsFrom 0 [] text

/-- The text with each backslash and the character that it escapes turned into that character. -/
def unescape : List Char → List Char
  | [] => []
  | ['\\'] => ['\\']
  | '\\' :: c :: rest =>
    if c == '\n' then '\\' :: c :: unescape rest else c :: unescape rest
  | c :: rest => c :: unescape rest

/-- The text of the options: that of the last tag of the given name, or the whole annotation if it
has no tags. -/
def optionText (text : List Char) (tag : String) : List Char :=
  match tags text with
  | [] => text
  | tags => ((tags.reverse.lookup tag.toList).map unescape).getD []

/-- Where a scan of options stands: outside quoted values, with the last character that is not
blank, inside of one, or behind a quote that ends one unless a second quote follows. -/
inductive OptionPlace
  | outside (last? : Option Char)
  | inside
  | halted
  deriving DecidableEq, Repr

namespace OptionPlace

/-- The place behind a character outside quoted values. Directly behind a colon a single quote opens
one. -/
def enter (last? : Option Char) (c : Char) : OptionPlace :=
  if c == '\'' && last? == some ':' then inside
  else outside (if Text.isBlank c then last? else some c)

def next : OptionPlace → Char → OptionPlace
  | outside last?, c => enter last? c
  | inside, c => if c == '\'' then halted else inside
  | halted, c => if c == '\'' then inside else enter (some '\'') c

end OptionPlace

/-- The parts between semicolons outside quoted values. -/
def optionPartsFrom (place : OptionPlace) : List Char → List (List Char)
  | [] => [[]]
  | c :: rest =>
    let parts := optionPartsFrom (place.next c) rest
    if c == ';' && place != .inside then [] :: parts
    else
      match parts with
      | [] => [[c]]
      | part :: parts => (c :: part) :: parts

def optionParts (text : List Char) : List (List Char) :=
  optionPartsFrom (.outside none) text

/-- The value without the single quotes around it. -/
def optionValue (text : List Char) : List Char :=
  match text with
  | '\'' :: second :: rest =>
    if (second :: rest).getLast? == some '\'' then
      Text.replaceAll ['\'', '\''] ['\''] (second :: rest).dropLast
    else text
  | _ => text

/-- The name of an option, in lower case with single spaces, and its value. -/
def readOption (part : List Char) : String × String :=
  let (key, value) := (Text.cutAt? ':' part).getD (part, [])
  let words := Text.words (Text.lower (.ofList key)).toList
  (Text.joinWith " " (words.map .ofList), .ofList (optionValue (Text.trim value)))

def readTag (text : List Char) (tag : String) : Options :=
  .ofList (((optionParts (optionText text tag)).map readOption).filter (·.1 != ""))

end RelSchema.Models
