import RelSchema.Ddl.Render
import RelSchema.Format
import RelSchema.Models.Render
import RelSchema.Schema.Comparison
import RelSchema.Schema.Merge

/-!
Sessions: steps of work on one current snapshot. A step that fails leaves the snapshot as it was.
-/
namespace RelSchema

/-- A text in a named format. -/
structure Source where
  text : String
  formatName : String
  dialectName : Option String := none
  tag : String := "gorm"

namespace Source

def load (source : Source) : Except Failure Snapshot :=
  Snapshot.load source.text source.formatName source.dialectName source.tag

end Source

/-- A step of a session. -/
inductive Action
  /-- Goes on with the snapshot that a text describes. -/
  | load (source : Source)
  /-- Goes on with the snapshot that the data describe. -/
  | set (data : Data)
  /-- Writes the snapshot out and goes on with what the text reads as. -/
  | reload (formatName : String) (dialectName : Option String)
  /-- Merges the current tables with the tables of a text, which are the models. -/
  | merge (source : Source) (driver : Option String) (counts : Keyed Int) (policyName : String)
  | renderDdl (dialectName : Option String)
  | renderModels (package : String)
  | dump (formatName : String)
  /-- Compares the current snapshot with the expected one that a text describes. -/
  | compare (source : Source)

/-- What a step answers. -/
inductive Reply
  | snapshot (snapshot : Snapshot)
  | text (text : String)

/-- The statements for the tables of a snapshot; without tables no dialect is needed. -/
def Snapshot.renderDdl (snapshot : Snapshot) (dialectName : Option String) :
    Except Failure String :=
  if snapshot.tables.isEmpty then .ok ""
  else do return Ddl.renderTables (← Dialect.ofName dialectName) snapshot.tables

def Snapshot.write (snapshot : Snapshot) (formatName : String) (dialectName : Option String) :
    Except Failure String :=
  match formatName with
  | "ddl" => snapshot.renderDdl dialectName
  | "models" => .ok (Models.render snapshot.tables "models")
  | _ => snapshot.dump formatName

namespace Action

/-- The snapshot after a step, and its answer. -/
def run (current : Snapshot) : Action → Except Failure (Snapshot × Reply)
  | load source => do
    let snapshot ← source.load
    return (snapshot, .snapshot snapshot)
  | set data => do
    let snapshot ← (Snapshot.ofData data).toExcept "SchemaInfo"
    return (snapshot, .snapshot snapshot)
  | reload formatName dialectName => do
    let text ← current.write formatName dialectName
    let snapshot ← Source.load { text, formatName, dialectName }
    return (snapshot, .snapshot snapshot)
  | merge source driver counts policyName => do
    let models ← source.load
    let policy ← MergePolicy.ofName policyName
    let snapshot := Snapshot.build policy models.tables current.tables
      (driver.getD current.driver) counts current.database
    return (snapshot, .snapshot snapshot)
  | renderDdl dialectName => do return (current, .text (← current.renderDdl dialectName))
  | renderModels package => .ok (current, .text (Models.render current.tables package))
  | dump formatName => do return (current, .text (← current.dump formatName))
  | compare source => do return (current, .text (current.compare (← source.load)).report)

end Action

/-- The answers of the steps, each run on the snapshot that the steps before it leave. -/
def Snapshot.replies (current : Snapshot) : List Action → List (Except Failure Reply)
  | [] => []
  | action :: actions =>
    match action.run current with
    | .ok (next, reply) => .ok reply :: next.replies actions
    | .error failure => .error failure :: current.replies actions

end RelSchema
