import RelSchema.Fault
import RelSchema.Json.Reader
import RelSchema.Number.Integer
import RelSchema.Yaml.Fault

/-!
The causes for which a request cannot be answered, and their wording.
-/
namespace RelSchema

/-- Why a path is not that of a file to use. -/
inductive Obstacle
  | missing
  /-- The path leads to a folder. -/
  | folder
  /-- A part of the path that should be a folder is a file. -/
  | throughFile
  /-- The path, or a part of it, is longer than names of files can be. -/
  | tooLong
  /-- The path holds a character that no name can hold. -/
  | nul
  deriving DecidableEq, Repr

inductive Failure
  /-- The database is of none of the supported families. -/
  | unsupportedDialect (name : Option String)
  /-- The input defines no table. -/
  | emptySchema (source detail : String)
  /-- The extension of a file, or the whole name without one, stands for no format. -/
  | unsupportedExtension (shown : String) (supported : List String)
  | unsupportedInput (format : String)
  | unsupportedOutput (format : String) (supported : List String)
  /-- The setting of the environment that selects the profile is unset or empty. -/
  | noProfile (setting : String)
  | unknownProfile (name : String) (available : List String)
  | missingConfig (path name : String)
  | file (obstacle : Obstacle) (path : String)
  /-- There is neither an address to connect to nor an open connection. -/
  | noAddress
  | notConnected
  | unreadableUrl (url : String)
  /-- A number of an address or of the configuration cannot be read. -/
  | integer (fault : Number.IntFault)
  | unknownPolicy (name : String)
  /-- A place lies in front of all tokens. -/
  | noToken (place : Int)
  /-- A relation field names no type. -/
  | namelessRelation
  | json (fault : Json.Fault)
  | yaml (fault : Yaml.Fault)
  | toml
  /-- A part of the configuration that should be a section is another value. -/
  | notSection
  /-- A part of the configuration that should hold sections is another value. -/
  | notSections
  /-- A record of the kind `record` cannot be built from the given data. -/
  | invalid (record : String) (faults : List Fault)
  /-- The database reports an error. -/
  | database (report : String)
  /-- A closing tag of a marked-up text names no open tag. -/
  | unopenedTag (tag : String) (position : Nat)
  /-- A closing tag of a marked-up text stands where no tag is open. -/
  | nothingToClose (position : Nat)
  deriving DecidableEq, Repr

def Obstacle.message (path : String) : Obstacle → String
  | missing => "[Errno 2] No such file or directory: " ++ Text.quoted path
  | folder => "[Errno 21] Is a directory: " ++ Text.quoted path
  | throughFile => "[Errno 20] Not a directory: " ++ Text.quoted path
  | tooLong => "[Errno 36] File name too long: " ++ Text.quoted path
  | nul => "embedded null byte"

namespace Failure

/-- Whether the failure is one of the input or of the database, in whose place models can stand. -/
def isUnavailable : Failure → Bool
  | unsupportedDialect _ | emptySchema .. | unsupportedExtension .. | unsupportedInput _
  | unsupportedOutput .. | noProfile _ | unknownProfile .. | unreadableUrl _ | database _ => true
  | _ => false

/-- Whether a command reports the failure in place of its answer. -/
def isReported : Failure → Bool
  | missingConfig .. | file .missing _ | invalid .. => true
  | failure => failure.isUnavailable

def message : Failure → String
  | unsupportedDialect name =>
    "Unsupported dialect: " ++ (name.map Text.quoted).getD "None" ++
      ". Supported dialects: sqlite, postgres, mysql"
  | emptySchema source detail =>
    "No tables found in " ++ source ++ " input" ++ (if detail == "" then "" else ": " ++ detail)
  | unsupportedExtension shown supported =>
    "Unsupported file type '" ++ shown ++ "'. Supported: " ++ Text.joinWith ", " supported
  | unsupportedInput format => "Unsupported input format '" ++ format ++ "'"
  | unsupportedOutput format supported =>
    "Unsupported dump format '" ++ format ++ "'. Supported: " ++ Text.joinWith ", " supported
  | noProfile setting =>
    "No database profile configured.\nSet " ++ setting ++ "=<name> or pass --profile <name>."
  | unknownProfile name available =>
    "Profile '" ++ name ++ "' not found. Available: " ++
      (if available.isEmpty then "(none)" else Text.joinWith ", " available)
  | missingConfig path name =>
    "Config not found: " ++ path ++ "\nCreate " ++ name ++
      " with at least one [profiles.<name>] section."
  | file obstacle path => obstacle.message path
  | noAddress => "No database URL or connection given"
  | notConnected => "Introspector not connected. Use with statement."
  | unreadableUrl _ => "Could not parse SQLAlchemy URL from given URL string"
  | integer fault => fault.message
  | unknownPolicy name => Text.quoted name ++ " is not a valid MergePolicy"
  | noToken _ | namelessRelation => "list index out of range"
  | json fault => fault.message
  | yaml fault => fault.message
  | toml => "unreadable TOML"
  | notSection => "not a section"
  | notSections => "not a set of sections"
  | invalid record faults =>
    toString faults.length ++ " validation error" ++ (if faults.length == 1 then "" else "s") ++
      " for " ++ record
  | database report => report
  | unopenedTag tag position =>
    "closing tag '" ++ tag ++ "' at position " ++ toString position ++ " doesn't match any open tag"
  | nothingToClose position =>
    "closing tag '[/]' at position " ++ toString position ++ " has nothing to close"

end Failure

end RelSchema
