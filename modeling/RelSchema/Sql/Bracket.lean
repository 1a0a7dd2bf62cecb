import RelSchema.Sql.Quote

/-!
The first balanced pair of brackets in a text.
-/
namespace RelSchema.Sql

/-- A kind of brackets, and the quotes that hide them. -/
structure Brackets where
  opening : Char := '('
  closing : Char := ')'
  quotes : List Char := quotes

namespace Brackets

/-- The position of the bracket that closes the one in front of the text, with `depth` further
ones open; `position` is that of the first character. -/
def closeFrom (brackets : Brackets) (quote? : Option Char) (depth position : Nat) :
    List Char → Option Nat
  | [] => none
  | c :: rest =>
    let next? := quoteAfter brackets.quotes quote? c
    if quote?.isSome || next?.isSome then brackets.closeFrom next? depth (position + 1) rest
    else if c == brackets.opening then brackets.closeFrom none (depth + 1) (position + 1) rest
    else if c == brackets.closing then
      match depth with
      | 0 => some position
      | depth + 1 => brackets.closeFrom none depth (position + 1) rest
    else brackets.closeFrom none depth (position + 1) rest

/-- The positions of the first opening bracket outside quotes and of the one that closes it. -/
def findFrom (brackets : Brackets) (quote? : Option Char) (position : Nat) :
    List Char → Option (Nat × Nat)
  | [] => none
  | c :: rest =>
    let next? := quoteAfter brackets.quotes quote? c
    if quote?.isSome || next?.isSome then brackets.findFrom next? (position + 1) rest
    else if c == brackets.opening then
      (brackets.closeFrom none 0 (position + 1) rest).map fun close => (position, close)
    else brackets.findFrom none (position + 1) rest

def find? (brackets : Brackets) (text : List Char) : Option (Nat × Nat) :=
  brackets.findFrom none 0 text

/-- The text between the first pair, empty if there is none. -/
def inside (brackets : Brackets) (text : List Char) : List Char :=
  match brackets.find? text with
  | none => []
  | some (opened, closed) => (text.drop (opened + 1)).take (closed - opened - 1)

end Brackets

end RelSchema.Sql
