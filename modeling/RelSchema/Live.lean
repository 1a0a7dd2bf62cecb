import RelSchema.Catalog.Connector
import RelSchema.Config.File
import RelSchema.Schema.Merge

/-!
Snapshots of the databases that profiles name, merged with models.
-/
namespace RelSchema

/-- What a program finds around it. -/
structure Surroundings where
  files : Files := []
  /-- The folder in which paths start. -/
  here : String
  environment : Keyed String := []
  /-- What the database answers, whatever its address. -/
  catalog : Catalog := {}
  /-- What listing the tables of the database fails with. -/
  unlisted : Option String := none

namespace Config

/-- The configuration at the path, or the usual one. -/
def find (surroundings : Surroundings) (path : Option String) : Except Failure Config :=
  load surroundings.files surroundings.here path

/-- The name and the profile that is asked for, or else the one that the environment selects. -/
def activeProfile (config : Except Failure Config) (environment : Keyed String)
    (name : Option String) (start : String) : Except Failure (String × Profile) := do
  let name ← match name with
    | some name => pure name
    | none => selectedProfile environment start
  return (name, ← (← config).profile name)

/-- The snapshot of the database of a profile, or the report with which listing its tables fails. -/
def inspectUnless (config : Config) (unlisted : Option String) (catalog : Catalog)
    (profile : Profile) : Except Failure Snapshot := do
  let url ← if profile.address == "" then pure none else some <$> Url.normal profile.address
  let connector : Connector :=
    { url, excluded := config.settings.excludedTables.getD Inspection.usualExclusions }
  let (entered, connector) := connector.enter catalog.refusal
  entered
  ((← connector.inspection? catalog).snapshotUnless unlisted).result

/-- The snapshot of the database of a profile, whose tables can be listed. -/
def inspect (config : Config) (catalog : Catalog) (profile : Profile) : Except Failure Snapshot :=
  config.inspectUnless none catalog profile

/-- The dialect that an address tells, if it can be read and is of a known family. -/
def addressDialect? (address : String) : Except Failure (Option Dialect) :=
  match Url.normal address with
  | .ok url => .ok (Dialect.ofName (some url.backend)).toOption
  | .error (.unreadableUrl _) => .ok none
  | .error failure => .error failure

def firstGiven (texts : List (Option String)) : Option String :=
  (texts.find? isGiven).join

/-- The tables of the models file, if there is one. -/
def modelTables (config : Config) (files : Files) (modelsFile : Option String)
    (dialect : Dialect) : Except Failure (List Table) :=
  match firstGiven [modelsFile, config.settings.modelsFile] with
  | none => .ok []
  | some path => do Models.parse (← files.read path) dialect config.settings.tag

/-- The snapshot of the database of a profile, merged with the models. The models stand alone if
the database cannot be read. -/
def loadLive (config : Config) (surroundings : Surroundings) (name : Option String)
    (modelsFile : Option String) (start : String) (policy : MergePolicy) :
    Except Failure Snapshot := do
  let (_, profile) ← activeProfile (.ok config) surroundings.environment name start
  let dialect? ← addressDialect? profile.address
  let models ← config.modelTables surroundings.files modelsFile (dialect?.getD .sqlite)
  match config.inspectUnless surroundings.unlisted surroundings.catalog profile with
  | .ok snapshot =>
    return Snapshot.build policy models snapshot.tables snapshot.driver [] snapshot.database
  | .error failure =>
    if models.isEmpty || !failure.isUnavailable then throw failure
    return { tables := models, driver := (dialect?.map Dialect.name).getD "" }

end Config

end RelSchema
