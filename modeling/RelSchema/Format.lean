import RelSchema.Data.Decode
import RelSchema.Data.Encode
import RelSchema.Dbml.Text
import RelSchema.Ddl.Script
import RelSchema.Json.Printer
import RelSchema.Json.Reader
import RelSchema.Models.Source
import RelSchema.Yaml.Document
import RelSchema.Yaml.Printer

/-!
The formats of schema files.
-/
namespace RelSchema

inductive Format
  | ddl
  | dbml
  | models
  | json
  | yaml
  deriving DecidableEq, Repr

namespace Format

def name : Format → String
  | ddl => "ddl"
  | dbml => "dsl"
  | models => "models"
  | json => "json"
  | yaml => "yaml"

def ofName? : String → Option Format
  | "ddl" => some ddl
  | "dsl" => some dbml
  | "models" => some models
  | "json" => some json
  | "yaml" => some yaml
  | _ => none

def extensions : List (String × Format) := [
  (".sql", ddl), (".dbml", dbml), (".go", models), (".json", json), (".yaml", yaml),
  (".yml", yaml)]

/-- The components of a path, without those that stand for the place they are in. -/
def components (path : List Char) : List (List Char) :=
  (Text.splitAt '/' path).filter fun component => component != [] && component != ['.']

/-- The end of a file name from its last dot on, unless that is its first or last character. -/
def extension (path : String) : String :=
  let name := (components path.toList).getLast?.getD []
  match Text.cutAtLast? '.' name with
  | some (stem, ending) =>
    if stem.isEmpty || ending.isEmpty then "" else .ofList ('.' :: ending)
  | none => ""

def ofFile (path shown : String) : Except Failure Format :=
  let ending := Text.lower (extension path)
  match extensions.lookup ending with
  | some format => .ok format
  | none => .error (.unsupportedExtension (if ending == "" then shown else ending)
      (extensions.map (·.1)))

end Format

/-- The record of a dump: a list stands for the tables alone, and nothing for an empty schema. -/
def dumpRecord : Data → Data
  | .list items => .record [(.text "tables", .list items)]
  | data => if data.isSubstantial then data else .record []

namespace Snapshot

/-- The snapshot with the name of a dialect, if one is given. -/
def withDialect (dialect? : Option Dialect) (snapshot : Snapshot) : Snapshot :=
  match dialect? with
  | some dialect => { snapshot with driver := dialect.name }
  | none => snapshot

def ofDump (data : Data) : Except Failure Snapshot :=
  (ofData (dumpRecord data)).toExcept "SchemaInfo"

/-- Reads a text of the given format, which may define no tables. -/
def read (format : Format) (dialect? : Option Dialect) (tag text : String) :
    Except Failure Snapshot :=
  match format with
  | .ddl => do
    let dialect := dialect?.getD (Ddl.detectDialect text)
    return { tables := ← Ddl.scriptTables dialect text, driver := dialect.name }
  | .dbml => do
    return { tables := ← Dbml.parse text, driver := (dialect?.map Dialect.name).getD "" }
  | .models => do
    let dialect := dialect?.getD .sqlite
    return { tables := ← Models.parse text dialect tag, driver := dialect.name }
  | .json => do
    let data ← (Json.read text).mapError .json
    return (← ofDump data).withDialect dialect?
  | .yaml => do return (← ofDump (← Yaml.read text)).withDialect dialect?

/-- Reads a text of the named format, which has to define a table. -/
def load (text formatName : String) (dialectName : Option String) (tag : String) :
    Except Failure Snapshot := do
  let dialect? ← Dialect.ofOptionalName dialectName
  match Format.ofName? formatName with
  | none => throw (.unsupportedInput formatName)
  | some format =>
    let snapshot ← read format dialect? tag text
    if snapshot.tables.isEmpty then throw (.emptySchema format.name "") else return snapshot

def dumpFormats : List String := ["json", "yaml"]

def dump (snapshot : Snapshot) (formatName : String) : Except Failure String :=
  match formatName with
  | "json" => .ok (Json.write snapshot.toData)
  | "yaml" => .ok (Yaml.write snapshot.toData)
  | _ => .error (.unsupportedOutput formatName dumpFormats)

end Snapshot

end RelSchema
