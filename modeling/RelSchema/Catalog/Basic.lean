import RelSchema.Data.Basic
import RelSchema.Keyed

/-!
The catalog of a database: what its queries about tables answer.
-/
namespace RelSchema

structure ColumnRow where
  name : String
  type : Option String := none
  isNullable : Bool := true
  defaultValue : Data := .null
  /-- The place of the column in the primary key, counted from one; zero for no place. Only some
  catalogs tell it here. -/
  keyPlace : Int := 0

namespace ColumnRow

/-- A row that flags what must not be null and tells places in the key. -/
def ofFlags (name : String) (type : Option String) (notNull defaultValue : Data)
    (keyPlace : Int) : ColumnRow :=
  { name, type, isNullable := !notNull.isSubstantial, defaultValue, keyPlace }

def ofWord (name : String) (type : Option String) (nullable : String) (defaultValue : Data) :
    ColumnRow :=
  { name, type, isNullable := nullable == "YES", defaultValue }

end ColumnRow

/-- A row of the query for the keys of a table: a column of a key, and the column that it refers to
if the key is a foreign one. The label tells the kind or the name of the key, where the catalog
gives one. -/
structure KeyRow where
  label : String := ""
  column : String
  table : Option String := none
  target : Option String := none

structure Catalog where
  /-- The name by which the connection tells its dialect; without it the address tells. -/
  dialectName : Option String := none
  tables : List String := []
  /-- The schema in which the tables lie. -/
  schema : String := "public"
  columns : Keyed (List ColumnRow) := []
  keys : Keyed (List KeyRow) := []
  /-- The row counts under quoted names. A table without one cannot be counted. -/
  counts : Keyed (Option Int) := []
  /-- The tables whose columns and keys cannot be read. -/
  failing : List String := []
  /-- Whether a transaction is under way when a query fails. -/
  isInTransaction : Bool := true
  /-- What connecting fails with. -/
  refusal : Option String := none

/-- The text of a default value; texts are given as they are. -/
def defaultText? : Data → Option String
  | .null => none
  | .text value => some value
  | .bool value => some (if value then "True" else "False")
  | .int value => some (toString value)
  | .double value => some value.toText
  | _ => some ""

end RelSchema
