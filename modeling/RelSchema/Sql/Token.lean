import RelSchema.Failure
import RelSchema.Sql.Quote
import RelSchema.Text.Case
import RelSchema.Text.Class

/-!
The tokens of a statement: words, quoted names, string literals and parentheses.
-/
namespace RelSchema.Sql

inductive TokenKind
  | word
  | quotedName
  | string
  | opening
  | closing
  deriving DecidableEq, Repr

/-- A token with its value, where quotes are taken off, and the span of text it covers. -/
structure Token where
  kind : TokenKind
  value : String
  quote : Option Char := none
  start : Nat
  stop : Nat
  deriving DecidableEq, Repr

namespace Token

def upper (token : Token) : String :=
  Text.upper token.value

/-- Whether the token is a bare word that is one of the given ones in some case. -/
def isKeyword (token : Token) (words : List String) : Bool :=
  token.kind == .word && words.contains token.upper

/-- Whether the token can name a table or a column. -/
def isName (token : Token) : Bool :=
  token.kind == .word || token.kind == .quotedName

end Token

/-- The part of a token that has been read, with its characters in reverse. A run is `halted` at a
quote that ends it unless a second one follows. -/
inductive Pending
  | nothing
  | word (start : Nat) (letters : List Char)
  | run (quote : Char) (start : Nat) (content : List Char)
  | halted (quote : Char) (start : Nat) (content : List Char)
  deriving DecidableEq, Repr

namespace Pending

def wordToken (start : Nat) (letters : List Char) (stop : Nat) : Token :=
  { kind := .word, value := .ofList letters.reverse, start, stop }

def runToken (quote : Char) (start : Nat) (content : List Char) (stop : Nat) : Token :=
  { kind := if quote == '\'' then .string else .quotedName
    value := .ofList content.reverse
    quote := some quote
    start
    stop }

/-- The token that is complete when the text or the token ends at the position. -/
def tokens (stop : Nat) : Pending → List Token
  | nothing => []
  | word start letters => [wordToken start letters stop]
  | run quote start content => [runToken quote start content stop]
  | halted quote start content => [runToken quote start content stop]

def parenToken (kind : TokenKind) (c : Char) (start : Nat) : Token :=
  { kind, value := c.toString, start, stop := start + 1 }

/-- The tokens completed by a character outside quoted runs, and what is pending behind it. -/
def readCode (position : Nat) (c : Char) (pending : Pending) : List Token × Pending :=
  if isQuote c then (pending.tokens position, run c position [])
  else if c == '(' then (pending.tokens position ++ [parenToken .opening c position], nothing)
  else if c == ')' then (pending.tokens position ++ [parenToken .closing c position], nothing)
  else if Text.isSeparator c then (pending.tokens position, nothing)
  else
    match pending with
    | word start letters => ([], word start (c :: letters))
    | _ => (pending.tokens position, word position [c])

def read (position : Nat) (c : Char) (pending : Pending) : List Token × Pending :=
  match pending with
  | run quote start content =>
    if c == quote then ([], halted quote start content) else ([], run quote start (c :: content))
  | halted quote start content =>
    if c == quote then ([], run quote start (quote :: content)) else readCode position c pending
  | _ => readCode position c pending

end Pending

/-- The tokens of the text from the position on, the pending one included. -/
def tokensFrom (position : Nat) (pending : Pending) : List Char → List Token
  | [] => pending.tokens position
  | c :: rest =>
    let (tokens, next) := pending.read position c
    tokens ++ tokensFrom (position + 1) next rest

def tokenize (text : List Char) : List Token :=
  tokensFrom 0 .nothing text

/-- The part of the text from one position to before another. -/
def slice (text : List Char) (start stop : Nat) : List Char :=
  (text.drop start).take (stop - start)

/-- The index in a token list, whose first token has the given index, of the token at which as many
parentheses are closed as opened since an opening one; `depth` counts the open ones so far. -/
def closingFrom (depth : Int) (index : Nat) : List Token → Option Nat
  | [] => none
  | token :: rest =>
    match token.kind with
    | .opening => closingFrom (depth + 1) (index + 1) rest
    | .closing => if depth == 1 then some index else closingFrom (depth - 1) (index + 1) rest
    | _ => closingFrom depth (index + 1) rest

/-- The index of the parenthesis that closes the one at the given index. -/
def matchingParen (tokens : List Token) (opened : Nat) : Option Nat :=
  closingFrom 0 opened (tokens.drop opened)

/-- The place of the parenthesis that closes the one at the given place. A place below zero counts
from the end of the tokens, behind which all of them follow once more. -/
def matchingPlace (tokens : List Token) (opened : Int) : Except Failure (Option Int) :=
  let fromEnd := (-opened).toNat
  if tokens.length < fromEnd then .error (.noToken opened)
  else if fromEnd == 0 then .ok ((matchingParen tokens opened.toNat).map Int.ofNat)
  else
    let unrolled := tokens.drop (tokens.length - fromEnd) ++ tokens
    .ok ((matchingParen unrolled 0).map fun place => opened + place)

end RelSchema.Sql
