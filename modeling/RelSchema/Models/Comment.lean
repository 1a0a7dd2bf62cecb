import RelSchema.Text.Comment

/-!
Comments in model sources.
-/
namespace RelSchema.Models

/-- The quotes of strings. The single quote is none of them, since comments may hold it alone. -/
def quotes : List Char := ['"', '\x60']

/-- Line comments start with two slashes. -/
def commentStyle : Text.CommentStyle where
  lineMark := '/'
  quotes := quotes

def stripComments (source : List Char) : List Char :=
  commentStyle.strip source

end RelSchema.Models
