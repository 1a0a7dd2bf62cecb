import RelSchema.Sql.Quote
import RelSchema.Text.Trim

/-!
Division of a text at separators outside quotes and parentheses.
-/
namespace RelSchema.Sql

/-- The parenthesis depth behind a character of code; a stray closing one leaves it at zero. -/
def depthAfter (depth : Nat) (c : Char) : Nat :=
  if c == '(' then depth + 1 else if c == ')' then depth - 1 else depth

/-- Whether the text is cut at the character, which stands outside quotes at the given depth. -/
def isCut (separator : Char) (depth : Nat) (c : Char) : Bool :=
  c == separator && depth == 0 && c != '(' && c != ')' && !isQuote c

/-- The text between the cuts, where `quote?` is the open quote and `depth` the parenthesis depth
in front of it. -/
def segmentsFrom (separator : Char) (quote? : Option Char) (depth : Nat) :
    List Char → List (List Char)
  | [] => [[]]
  | c :: rest =>
    if quote? == none && isCut separator depth c then
      [] :: segmentsFrom separator none depth rest
    else
      let depth := if quote? == none then depthAfter depth c else depth
      match segmentsFrom separator (quoteAfter quotes quote? c) depth rest with
      | [] => [[c]]
      | segment :: segments => (c :: segment) :: segments

def segments (separator : Char) (text : List Char) : List (List Char) :=
  segmentsFrom separator none 0 text

/-- The trimmed texts between the separators, without empty ones. -/
def splitTopLevel (separator : Char) (text : List Char) : List (List Char) :=
  ((segments separator text).map Text.trim).filter (!·.isEmpty)

def statements (script : List Char) : List (List Char) :=
  splitTopLevel ';' script

def definitions (body : List Char) : List (List Char) :=
  splitTopLevel ',' body

end RelSchema.Sql
