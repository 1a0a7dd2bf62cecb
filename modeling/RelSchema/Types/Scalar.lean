import RelSchema.Dialect
import RelSchema.Text.Case
import RelSchema.Text.Trim

/-!
The parts of a column type as a database writes it.
-/
namespace RelSchema.SqlType

/-- The text around the first parenthesized group, with a space in its place. -/
def withoutGroup (type : List Char) : List Char :=
  match Text.cutAt? '(' type with
  | none => type
  | some (head, tail) => head ++ ' ' :: ((Text.cutAt? ')' tail).map (·.2)).getD []

/-- The words of a type in upper case, without its size. -/
def base (type : String) : String :=
  let parts := Text.words (withoutGroup (Text.upper type).toList)
  Text.joinWith " " (parts.map .ofList)

/-- The text of the first parenthesized group, which holds the size or precision, and the empty
text for a type without one. -/
def size (type : String) : String :=
  match Text.cutAt? '(' type.toList with
  | none => ""
  | some (_, tail) =>
    match Text.cutAt? ')' tail with
    | none => ""
    | some (inner, _) => .ofList (Text.trim inner)

end RelSchema.SqlType

/-!
The scalar types of declared fields and the column types that correspond to them.
-/
namespace RelSchema

inductive Scalar
  | string
  | int
  | int8
  | int16
  | int32
  | int64
  | uint
  | uint8
  | uint16
  | uint32
  | uint64
  | float32
  | float64
  | bool
  | byte
  | rune
  | time
  | json
  | bytes
  deriving DecidableEq, Repr

namespace Scalar

def name : Scalar → String
  | string => "string"
  | int => "int"
  | int8 => "int8"
  | int16 => "int16"
  | int32 => "int32"
  | int64 => "int64"
  | uint => "uint"
  | uint8 => "uint8"
  | uint16 => "uint16"
  | uint32 => "uint32"
  | uint64 => "uint64"
  | float32 => "float32"
  | float64 => "float64"
  | bool => "bool"
  | byte => "byte"
  | rune => "rune"
  | time => "time.Time"
  | json => "json.RawMessage"
  | bytes => "[]byte"

def ofName? : String → Option Scalar
  | "string" => some string
  | "int" => some int
  | "int8" => some int8
  | "int16" => some int16
  | "int32" => some int32
  | "int64" => some int64
  | "uint" => some uint
  | "uint8" => some uint8
  | "uint16" => some uint16
  | "uint32" => some uint32
  | "uint64" => some uint64
  | "float32" => some float32
  | "float64" => some float64
  | "bool" => some bool
  | "byte" => some byte
  | "rune" => some rune
  | "time.Time" => some time
  | "json.RawMessage" => some json
  | "[]byte" => some bytes
  | _ => none

/-- The type that an optional leading star refers to. -/
def pointee (type : String) : String :=
  match type.toList with
  | '*' :: rest => .ofList rest
  | _ => type

def ofReference? (type : String) : Option Scalar :=
  ofName? (pointee type)

def isScalarType (type : String) : Bool :=
  (ofReference? type).isSome

def sqlType (scalar : Scalar) (dialect : Dialect) : String :=
  let postgres := dialect == .postgres
  match scalar with
  | int | int64 | uint | uint64 => if postgres then "BIGINT" else "INTEGER"
  | int8 | int16 | int32 | uint8 | uint16 | uint32 => "INTEGER"
  | float32 | float64 => if postgres then "DOUBLE PRECISION" else "REAL"
  | bool => "BOOLEAN"
  | string | byte | rune => "TEXT"
  | bytes => if postgres then "BYTEA" else "BLOB"
  | time => if postgres then "TIMESTAMP" else "DATETIME"
  | json => if postgres then "JSONB" else "TEXT"

/-- The scalar that holds the values of a column with the given base type. -/
def ofBase? : String → Option Scalar
  | "INTEGER" | "INT" | "BIGINT" | "INT8" | "INT4" | "INT UNSIGNED" | "INTEGER UNSIGNED"
  | "BIGINT UNSIGNED" | "SERIAL" | "BIGSERIAL" | "SMALLSERIAL" => some int64
  | "SMALLINT" | "TINYINT" | "INT2" | "MEDIUMINT" => some int32
  | "REAL" | "FLOAT" | "DOUBLE" | "DOUBLE PRECISION" | "FLOAT8" | "FLOAT4" | "NUMERIC"
  | "DECIMAL" => some float64
  | "BOOLEAN" | "BOOL" => some bool
  | "TEXT" | "VARCHAR" | "CHAR" | "CHARACTER" | "CHARACTER VARYING" | "NVARCHAR" | "LONGTEXT"
  | "MEDIUMTEXT" | "TINYTEXT" | "STRING" | "UUID" => some string
  | "BLOB" | "BYTEA" | "BINARY" | "VARBINARY" | "LONGBLOB" | "MEDIUMBLOB" => some bytes
  | "TIMESTAMP" | "DATETIME" | "DATE" | "TIMESTAMPTZ" | "TIMESTAMP WITHOUT TIME ZONE"
  | "TIMESTAMP WITH TIME ZONE" => some time
  | "JSON" | "JSONB" => some json
  | _ => none

/-- Whether a value of the type can be absent without being a reference. -/
def holdsNothing : Scalar → Bool
  | bytes | json => true
  | _ => false

end Scalar

/-- The column type of a declared type; a type that is no scalar is kept as text. -/
def declaredSqlType (type : String) (dialect : Dialect) : String :=
  ((Scalar.ofReference? type).map (·.sqlType dialect)).getD "TEXT"

/-- The declared type of a column: a reference where the value may be absent. -/
def declaredType (sqlType : String) (nullable : Bool) : String :=
  let scalar := (Scalar.ofBase? (SqlType.base sqlType)).getD .string
  if nullable && !scalar.holdsNothing then "*" ++ scalar.name else scalar.name

end RelSchema
