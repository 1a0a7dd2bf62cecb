import RelSchema.Dbml.Line
import RelSchema.Schema.Column
import RelSchema.Sql.Split

/-!
Lines that declare columns.
-/
namespace RelSchema.Dbml

structure ColumnLine where
  name : List Char
  type : List Char
  settings : List Char
  deriving DecidableEq, Repr

/-- The type and the settings in the text behind a name. The type may be missing if two blanks stand
in its place. -/
def typeAndSettings? (s : List Char) : Option (List Char × List Char) :=
  match dropBlanks? s with
  | none | some [] => none
  | some rest =>
    match Text.cutAt? '[' rest with
    | none => some (rest, [])
    | some (type, settings) =>
      if settings.getLast? != some ']' then none
      else if type.isEmpty && !(s.drop 1).head?.any Text.isBlank then none
      else some (Text.trim type, settings.dropLast)

def columnLine? (line : List Char) : Option ColumnLine :=
  (names line).findSome? fun (name, rest) =>
    (typeAndSettings? rest).map fun (type, settings) => { name, type, settings }

/-- What a setting says about its column. -/
inductive Setting
  | primaryKey
  | notNull
  | default (value : String)
  | reference (target? : Option Target)
  | other
  deriving DecidableEq, Repr

def readSetting (text : List Char) : Setting :=
  let key (s : List Char) : String :=
    Text.joinWith " " ((Text.words (Text.lower (.ofList s)).toList).map .ofList)
  match Text.cutAt? ':' text with
  | none =>
    match key text with
    | "pk" | "primary key" => .primaryKey
    | "not null" => .notNull
    | _ => .other
  | some (name, value) =>
    match key name with
    | "default" => .default (.ofList (Text.trimSet quotes (Text.trim value)))
    | "ref" =>
      let path := (Text.trim value).dropWhile ['<', '>', '-'].contains
      .reference (target? (Text.trim path))
    | _ => .other

namespace Setting

def default? : Setting → Option String
  | default value => some value
  | _ => none

def reference? : Setting → Option (Option Target)
  | reference target? => some target?
  | _ => none

end Setting

/-- The column of the given name and type with the given settings, of which the last default and the
last reference count. -/
def columnWith (name type : String) (settings : List Setting) : Column :=
  let isPrimaryKey := settings.contains .primaryKey
  let column : Column := {
    name
    type
    isPrimaryKey
    isNullable := !settings.contains .notNull && !isPrimaryKey
    defaultValue := (settings.filterMap Setting.default?).getLast? }
  match (settings.filterMap Setting.reference?).getLast? with
  | some (some target) => column.asForeignKey target.table (some target.column)
  | _ => column

def column? (line : List Char) : Option Column :=
  (columnLine? line).map fun found =>
    columnWith (Naming.unquoteIdentifier (.ofList found.name))
      (.ofList (Text.trimSet ['"'] found.type))
      ((Sql.splitTopLevel ',' found.settings).map readSetting)

end RelSchema.Dbml
