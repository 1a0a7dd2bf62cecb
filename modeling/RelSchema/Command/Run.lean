import RelSchema.Command.Invocation
import RelSchema.Ddl.Guard
import RelSchema.Display.Grid
import RelSchema.Live
import RelSchema.Session

/-!
Carrying out commands. A command prints lines and may write a file, and its status tells whether it
succeeded. A failure that it does not report ends it.
-/
namespace RelSchema

/-- What a command has done: its status, or a failure that ended it, and what it has printed and
written before. -/
structure Effect where
  status : Except Failure Nat := .ok 0
  output : String := ""
  written : Option (String × String) := none

namespace Effect

def withLineFeed (text : String) : String :=
  if text.endsWith "\n" then text else text ++ "\n"

def ended (failure : Failure) : Effect := { status := .error failure }

def asLines (lines : List (List Char)) : String :=
  String.join (lines.map fun line => .ofList (line ++ ['\n']))

/-- Prints a marked-up text as lines, and then goes on. -/
def printing (text : String) (next : Effect) : Effect :=
  match Markup.plain text with
  | .error failure => ended failure
  | .ok shown =>
    let lines := (Display.wrapped .fold Display.terminalWidth shown).map
      (Display.truncated .fold Display.terminalWidth)
    { next with output := asLines lines ++ next.output }

/-- Prints a grid, and then goes on. -/
def printingGrid (grid : Display.Grid) (next : Effect) : Effect :=
  match grid.lines with
  | .error failure => ended failure
  | .ok lines =>
    { next with output := asLines lines ++ next.output }

/-- The next effect with the result, or a report in place of a failure that commands report. -/
def orReport (result : Except Failure α) (next : α → Effect) : Effect :=
  match result with
  | .ok a => next a
  | .error failure =>
    if failure.isReported then
      printing ("[bold red]x[/bold red] " ++ failure.message) { status := .ok 1 }
    else ended failure

end Effect

namespace Command

/-- The row of a profile; the active one is marked. -/
def profileRow (active : Option String) : String × Profile → List String
  | (name, profile) =>
    let isActive := active == some name
    [if isActive then "[bold green]*[/bold green]" else " ",
      if isActive then "[bold cyan]" ++ name ++ "[/bold cyan]" else name,
      .ofList (profile.url.toList.takeWhile (· != ':')),
      profile.description]

def profileGrid (config : Config) (active : Option String) : Display.Grid :=
  { title := "Database Profiles"
    columns := [
      { header := "", width? := some 2 }, { header := "Profile" }, { header := "Backend" },
      { header := "Description" }]
    rows := config.profiles.map (profileRow active) }

/-- The columns of a table that refer to others, a line each. -/
def referenceLines (table : Table) : List String :=
  (table.columns.filter (·.isForeignKey)).map fun column =>
    column.name ++ " -> " ++ column.foreignTable.getD "None" ++ "." ++
      (match column.foreignKey with
        | none | some "" => "?"
        | some key => key)

def tableRow (table : Table) : List String := [
  "[bold cyan]" ++ table.name ++ "[/bold cyan]",
  toString table.columns.length,
  Text.joinWith ", " table.keyColumns,
  Text.joinWith "\n" (referenceLines table),
  toString table.relations.length,
  toString table.rowCount]

def schemaGrid (snapshot : Snapshot) : Display.Grid :=
  { title := "Schema (" ++ (if snapshot.driver == "" then "unknown" else snapshot.driver) ++ ")"
    columns := [
      { header := "Table" }, { header := "Columns", isRight := true }, { header := "Primary Key" },
      { header := "Foreign Keys" }, { header := "Relations", isRight := true },
      { header := "Rows", isRight := true }]
    rows := snapshot.tables.map tableRow }

/-- The configuration at the path, if one is given that is not empty, or the usual one. -/
def config (surroundings : Surroundings) (path : Option String) : Except Failure Config :=
  Config.find surroundings (if isGiven path then path else none)

/-- The settings, which are the usual ones where there is no configuration. -/
def settings (surroundings : Surroundings) (path : Option String) : Except Failure Settings :=
  match config surroundings path with
  | .error (.missingConfig ..) => .ok {}
  | config => config.map (·.settings)

/-- A given text that is not empty, or else the usual one. -/
def givenOr (usual : String) (given : Option String) : String :=
  (Config.firstGiven [given]).getD usual

def runProfiles (surroundings : Surroundings) (config : Except Failure Config) (start : String) :
    Effect :=
  match config with
  | .error failure@(.missingConfig ..) =>
    .printing ("[red]Error: " ++ failure.message ++ "[/red]") { status := .ok 1 }
  | .error failure => .ended failure
  | .ok config =>
    let active := (selectedProfile surroundings.environment start).toOption
    .printingGrid (profileGrid config active) <|
      if active.isSome then .printing "\n[bold green]*[/bold green] = active profile" {} else {}

def runInspect (surroundings : Surroundings) (config : Except Failure Config) (start : String)
    (profile models : Option String) (asJson : Bool) : Effect :=
  .orReport (do (← config).loadLive surroundings profile models start .model) fun snapshot =>
    if asJson then { output := Json.write snapshot.toData ++ "\n" }
    else .printingGrid (schemaGrid snapshot) {}

def convertText (snapshot : Snapshot) (target : String) (dialect : Option String)
    (ifNotExists : Bool) (package : String) : Except Failure String :=
  match target with
  | "ddl" => do
    let text ← snapshot.renderDdl (Config.firstGiven [dialect, some snapshot.driver, some "sqlite"])
    return if ifNotExists then Ddl.ifNotExists text else text
  | "models" => .ok (Models.render snapshot.tables package)
  | _ => snapshot.dump target

/-- Writes a text to a file and says so in a marked-up note, or prints the text. -/
def writeText (files : Files) (text : String) (output : Option String) : Effect :=
  let text := Effect.withLineFeed text
  match output with
  | none | some "" => { output := text }
  | some path =>
    match files.checkTarget path with
    | .error failure => .ended failure
    | .ok () =>
      { status := (Markup.plain ("[green]Wrote[/green] " ++ path)).map fun _ => 0
        written := some (plainPath path, text) }

def runConvert (surroundings : Surroundings) (settings : Settings) (input target : String)
    (dialect : Option String) (ifNotExists : Bool) (package tag output : Option String) : Effect :=
  let tag := givenOr settings.tag tag
  .orReport (Snapshot.loadFile surroundings.files input dialect tag) fun snapshot =>
    .orReport (convertText snapshot target dialect ifNotExists (givenOr settings.package package))
      fun text => writeText surroundings.files text output

def reportComparison (comparison : Comparison) : Effect :=
  if comparison.valid then
    .printing "[bold green]v[/bold green] Schema validation: [green]PASSED[/green]" <|
      if comparison.extraTables.isEmpty then {}
      else
        .printing ("  Extra tables: [yellow]" ++ Text.joinWith ", " comparison.extraTables ++
          "[/yellow]") {}
  else
    .printing ("[bold red]x[/bold red] Schema validation failed: " ++
      toString comparison.errorCount ++ " errors") (.printing comparison.report { status := .ok 1 })

def runValidate (surroundings : Surroundings) (config : Except Failure Config)
    (start input : String) (profile tag : Option String) : Effect :=
  let comparison : Except Failure Comparison := do
    let config ← config
    let expected ← Snapshot.loadFile surroundings.files input none (givenOr config.settings.tag tag)
    let (_, profile) ← Config.activeProfile (.ok config) surroundings.environment profile start
    let actual ← config.inspectUnless surroundings.unlisted surroundings.catalog profile
    return actual.compare expected
  .orReport comparison reportComparison

end Command

def Invocation.run (surroundings : Surroundings) (invocation : Invocation) : Effect :=
  let config := Command.config surroundings invocation.config
  match invocation.command with
  | .profiles => Command.runProfiles surroundings config invocation.start
  | .inspect profile models asJson =>
    Command.runInspect surroundings config invocation.start profile models asJson
  | .convert input target dialect ifNotExists package tag output =>
    match Command.settings surroundings invocation.config with
    | .error failure => .ended failure
    | .ok settings =>
      Command.runConvert surroundings settings input target dialect ifNotExists package tag output
  | .validate input profile tag =>
    Command.runValidate surroundings config invocation.start input profile tag

def Invocation.paths (invocation : Invocation) : List String :=
  (invocation.config.filter (· != "")).getD Config.usualFile ::
    match invocation.command with
    | .profiles => []
    | .inspect _ models _ => models.toList
    | .convert input .. | .validate input .. => [input]

/-- The files that the configuration of an invocation names. -/
def Invocation.morePaths (invocation : Invocation) (surroundings : Surroundings) : List String :=
  match Command.config surroundings invocation.config with
  | .ok config => config.settings.modelsFile.toList
  | .error _ => []

end RelSchema
