/-!
Removal of comments from a text with quoted runs.
-/
namespace RelSchema.Text

/-- How a notation marks comments and quotes: a line comment starts with the mark written twice, and
a block comment stands between `/*` and `*/`. -/
structure CommentStyle where
  lineMark : Char
  quotes : List Char

/-- Where a scan stands between two characters of a text. -/
inductive Place
  | code
  | quoted (quote : Char)
  | lineComment
  | blockComment
  deriving DecidableEq, Repr

namespace CommentStyle

/-- The place behind a character of code that starts no comment. -/
def enter (style : CommentStyle) (c : Char) : Place :=
  if style.quotes.contains c then .quoted c else .code

/-- The text without comments, read from the given place on. The line break after a line comment is
kept, and a block comment leaves a space. -/
def stripFrom (style : CommentStyle) : Place → List Char → List Char
  | _, [] => []
  | .code, [c] => [c]
  | .code, c :: d :: rest =>
    if c == style.lineMark && d == style.lineMark then style.stripFrom .lineComment rest
    else if c == '/' && d == '*' then style.stripFrom .blockComment rest
    else c :: style.stripFrom (style.enter c) (d :: rest)
  | .quoted quote, c :: rest =>
    c :: style.stripFrom (if c == quote then .code else .quoted quote) rest
  | .lineComment, c :: rest =>
    if c == '\n' then c :: style.stripFrom .code rest else style.stripFrom .lineComment rest
  | .blockComment, [_] => []
  | .blockComment, c :: d :: rest =>
    if c == '*' && d == '/' then ' ' :: style.stripFrom .code rest
    else style.stripFrom .blockComment (d :: rest)

def strip (style : CommentStyle) (text : List Char) : List Char :=
  style.stripFrom .code text

end CommentStyle

end RelSchema.Text
