import RelSchema.Failure
import RelSchema.Text.Case

/-!
The families of databases that are told apart.
-/
namespace RelSchema

inductive Dialect
  | sqlite
  | postgres
  | mysql
  deriving DecidableEq, Repr

namespace Dialect

def name : Dialect → String
  | sqlite => "sqlite"
  | postgres => "postgres"
  | mysql => "mysql"

def quoteChar : Dialect → Char
  | mysql => '\x60'
  | _ => '"'

/-- The dialect with the given plain name or well-known alias. -/
def ofKey? : String → Option Dialect
  | "sqlite" | "sqlite3" => some sqlite
  | "postgres" | "postgresql" | "pg" | "psql" | "psycopg" | "psycopg2" => some postgres
  | "mysql" | "mariadb" | "pymysql" => some mysql
  | _ => none

/-- The part of a name that tells the dialect: trimmed, in lower case, up to the first plus sign,
after which the scheme of a URL names the driver. -/
def key (name : String) : String :=
  .ofList ((Text.lower (.ofList (Text.trim name.toList))).toList.takeWhile (· != '+'))

/-- The dialect with the given name, or a failure for a missing or unknown one. -/
def ofName (name : Option String) : Except Failure Dialect :=
  match ofKey? (key (name.getD "")) with
  | some dialect => .ok dialect
  | none => .error (.unsupportedDialect name)

/-- The dialect of an optional name, where the empty name counts as none. -/
def ofOptionalName : Option String → Except Failure (Option Dialect)
  | none | some "" => .ok none
  | some name => (ofName (some name)).map some

end Dialect

end RelSchema
