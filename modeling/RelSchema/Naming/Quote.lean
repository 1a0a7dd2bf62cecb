import RelSchema.Dialect
import RelSchema.Text.Trim

/-!
Quotation of identifiers.
-/
namespace RelSchema.Naming

/-- The text with every occurrence of the character written twice. -/
def doubled (quote : Char) (s : List Char) : List Char :=
  s.flatMap fun c => if c == quote then [quote, quote] else [c]

/-- The text between two quotes, each quote inside it doubled. -/
def enclosed (quote : Char) (s : List Char) : List Char :=
  quote :: doubled quote s ++ [quote]

def quoteIdentifier (dialect : Dialect) (name : String) : String :=
  .ofList (enclosed dialect.quoteChar name.toList)

/-- The text without blanks and quotes of any kind around it. -/
def unquoteIdentifier (text : String) : String :=
  .ofList (Text.trimSet ['\x60', '"', '\'', '[', ']'] (Text.trim text.toList))

end RelSchema.Naming
