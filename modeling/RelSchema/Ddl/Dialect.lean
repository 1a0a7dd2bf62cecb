import RelSchema.Dialect
import RelSchema.Sql.Token
import RelSchema.Text.Trim

/-!
The dialect of a script, and how it affects tokens.
-/
namespace RelSchema.Ddl

def detectDialect (script : String) : Dialect :=
  let text := (Text.upper script).toList
  let has (word : String) : Bool := Text.occursIn word.toList text
  if has "AUTOINCREMENT" then .sqlite
  else if has "SERIAL" || has "::" || has "BYTEA" then .postgres
  else if has "AUTO_INCREMENT" || has "ENGINE=" then .mysql
  else .sqlite

/-- The dialect of the given name, or the one that the script points to. -/
def dialectFor (script : String) (name : Option String) : Except Failure Dialect :=
  (Dialect.ofOptionalName name).map fun dialect? => dialect?.getD (detectDialect script)

/-- On MySQL a text in double quotes is a string and no name. -/
def readToken (dialect : Dialect) (token : Sql.Token) : Sql.Token :=
  if dialect == .mysql && token.kind == .quotedName && token.quote == some '"' then
    { token with kind := .string }
  else token

def tokens (dialect : Dialect) (text : List Char) : List Sql.Token :=
  (Sql.tokenize text).map (readToken dialect)

end RelSchema.Ddl
