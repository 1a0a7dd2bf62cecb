import RelSchema.Data.Checked
import RelSchema.Failure
import RelSchema.Keyed
import RelSchema.Url.Basic

/-!
Configurations: profiles of databases, and settings for reading models.
-/
namespace RelSchema

/-- How a database is reached. The password replaces a placeholder in the address. -/
structure Profile where
  url : String
  description : String := ""
  password : Option String := none
  deriving DecidableEq, Repr

structure Settings where
  modelsFile : Option String := none
  tag : String := "gorm"
  package : String := "models"
  /-- The tables to pass over, if they are not the usual ones. -/
  excludedTables : Option (List String) := none
  deriving DecidableEq, Repr

structure Config where
  profiles : Keyed Profile := []
  settings : Settings := {}
  deriving DecidableEq, Repr

/-!
Reading configurations from data.
-/

open Data

def Profile.ofData : Data → Checked Profile :=
  asRecord "DatabaseProfile" fun members =>
    Profile.mk <$> required members "url" asText
      <*> withDefault members "description" asText ""
      <*> withDefault members "db_password" asOptionalText none

def asOptionalTexts : Data → Checked (Option (List String))
  | null => .valid none
  | data => some <$> asList asText data

def Settings.ofData : Data → Checked Settings :=
  asRecord "SchemaSettings" fun members =>
    Settings.mk <$> withDefault members "models_file" asOptionalText none
      <*> withDefault members "annotation_tag" asText "gorm"
      <*> withDefault members "package" asText "models"
      <*> withDefault members "excluded_tables" asOptionalTexts none

/-- A profile under its name; the path to a fault in it leads through the name. -/
def profileEntry : Data × Data → Checked (String × Profile)
  | (.text name, data) => ((name, ·) <$> Profile.ofData data).within (.field name)
  | _ => .problem .notText

def profileEntries : List (Data × Data) → Checked (List (String × Profile))
  | [] => .valid []
  | entry :: entries => List.cons <$> profileEntry entry <*> profileEntries entries

def asProfiles : Data → Checked (Keyed Profile)
  | .record members => Keyed.ofList <$> profileEntries members
  | _ => .problem .notMapping

def Config.ofData : Data → Checked Config :=
  asRecord "StudioConfig" fun members =>
    Config.mk <$> withDefault members "profiles" asProfiles []
      <*> withDefault members "schema_settings" Settings.ofData {}

/-!
The choice of a profile, and the address that it stands for.
-/

namespace Profile

def passwordPlace : String := "[YOUR-PASSWORD]"

/-- The address with the password, if there is one, in each of its places. -/
def address (profile : Profile) : String :=
  match profile.password with
  | none | some "" => profile.url
  | some password => .ofList (Text.replaceAll passwordPlace.toList
      (Percent.encode password.toList) profile.url.toList)

end Profile

def profileSetting (start : String) : String :=
  start ++ "DB_PROFILE"

def selectedProfile (environment : Keyed String) (start : String) : Except Failure String :=
  match environment.get? (profileSetting start) with
  | none | some "" => .error (.noProfile (profileSetting start))
  | some name => .ok name

namespace Config

def profile (config : Config) (name : String) : Except Failure Profile :=
  match config.profiles.get? name with
  | some profile => .ok profile
  | none => .error (.unknownProfile name config.profiles.keys)

end Config

end RelSchema
