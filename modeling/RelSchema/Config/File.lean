import RelSchema.Config.Basic
import RelSchema.Files
import RelSchema.Toml.Document

/-!
Configuration files.
-/
namespace RelSchema

namespace Config

/-- The name of the file that is read unless another one is asked for. -/
def usualFile : String := "schema-studio.toml"

def readSection (record : String) (read : Data → Checked α) : Data → Except Failure α
  | .record members => (read (.record members)).toExcept record
  | _ => .error .notSection

def readProfiles : List (Data × Data) → Except Failure (Keyed Profile)
  | [] => .ok []
  | (key, data) :: entries => do
    let profile ← readSection "DatabaseProfile" Profile.ofData data
    let profiles ← readProfiles entries
    match key with
    | .text name => return (name, profile) :: profiles
    | _ => return profiles

/-- The configuration that the text of a file describes. The first faulty section fails it, and
profiles come before settings. -/
def read (text : String) : Except Failure Config := do
  let members ← Toml.read text
  let profiles ← match (Data.member? members "profiles").getD (.record []) with
    | .record entries => readProfiles entries
    | _ => throw .notSections
  let settings ← readSection "SchemaSettings" Settings.ofData
    ((Data.member? members "schema").getD (.record []))
  return { profiles, settings }

/-- Reads the file at the path, or the usual one in the folder `here`. A path that leads nowhere has
a failure of its own. -/
def load (files : Files) (here : String) (path : Option String) : Except Failure Config :=
  let (path, shown) := match path with
    | none => (usualFile, here ++ "/" ++ usualFile)
    | some path => (path, plainPath path)
  match files.text path with
  | .ok text => read text
  | .error .folder => .error (.file .folder shown)
  | .error .tooLong => .error (.file .tooLong shown)
  | .error _ => .error (.missingConfig shown usualFile)

end Config

end RelSchema
