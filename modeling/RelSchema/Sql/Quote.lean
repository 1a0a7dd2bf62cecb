import RelSchema.Text.Comment

/-!
The quotes of SQL texts: the single quote around string literals, the double quote and the grave
accent around identifiers. A quote that is written twice inside a quoted run stands for itself;
a scan may treat it as the end of one run and the start of the next.
-/
namespace RelSchema.Sql

def quotes : List Char := ['\'', '"', '\x60']

def isQuote (c : Char) : Bool :=
  quotes.contains c

/-- The quote that is open behind a character, if `open?` is the one open before it. -/
def quoteAfter (quotes : List Char) (open? : Option Char) (c : Char) : Option Char :=
  match open? with
  | some quote => if c == quote then none else some quote
  | none => if quotes.contains c then some c else none

/-!
Comments in scripts.
-/

/-- Line comments start with two hyphens. -/
def commentStyle : Text.CommentStyle where
  lineMark := '-'
  quotes := quotes

def stripComments (script : List Char) : List Char :=
  commentStyle.strip script

end RelSchema.Sql
