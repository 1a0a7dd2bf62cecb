import RelSchema.Catalog.Inspection

/-!
Connectors: connections that are opened and closed again, possibly several times. Every attempt to
connect makes an engine, and closing disposes of the engine that is held.
-/
namespace RelSchema

/-- What connects to a database. -/
structure Engine where
  /-- The name and the number of seconds of the option that bounds the wait for a connection. -/
  timeoutName : String
  timeout : Int
  /-- How often the engine has been disposed of. -/
  disposals : Nat := 0
  deriving DecidableEq, Repr

structure Connector where
  /-- Where the database is. -/
  url : Option Url
  timeout : Int := 10
  schema : String := "public"
  excluded : List String := Inspection.usualExclusions
  /-- All engines made so far. -/
  engines : List Engine := []
  /-- The place of the engine that is held. -/
  held : Option Nat := none
  isConnected : Bool := false

namespace Connector

def engineFor (url : Url) (timeout : Int) : Engine :=
  { timeoutName := if url.backend == "sqlite" then "timeout" else "connect_timeout", timeout }

/-- Connects, unless a connection is open already. An attempt that is refused leaves its engine
held. -/
def enter (connector : Connector) (refusal : Option String) :
    Except Failure Unit × Connector :=
  if connector.isConnected then (.ok (), connector)
  else
    match connector.url with
    | none => (.error .noAddress, connector)
    | some url =>
      let holding := { connector with
        engines := connector.engines ++ [engineFor url connector.timeout]
        held := some connector.engines.length }
      match refusal with
      | some report => (.error (.database report), holding)
      | none => (.ok (), { holding with isConnected := true })

/-- Closes the connection and disposes of the engine that is held. -/
def exit (connector : Connector) : Connector :=
  match connector.held with
  | none => connector
  | some place =>
    { connector with
      engines := connector.engines.modify place fun engine =>
        { engine with disposals := engine.disposals + 1 }
      held := none
      isConnected := false }

/-- The inspection over the open connection to the database with this catalog. -/
def inspection? (connector : Connector) (catalog : Catalog) : Except Failure Inspection :=
  match connector.isConnected, connector.url with
  | true, some url =>
    .ok { catalog, url, schema := connector.schema, excluded := connector.excluded }
  | _, _ => .error .notConnected

inductive Event
  /-- Enters; the attempt to connect may be refused. -/
  | enter (refusal : Option String)
  | exit
  | query (query : Inspection.Query)

inductive Response
  | entered
  | exited
  | answer (answer : Inspection.Answer)

/-- The response to an event, and the connector after it. -/
def run (catalog : Catalog) (connector : Connector) : Event → Except Failure Response × Connector
  | .enter refusal =>
    let (result, after) := connector.enter refusal
    (result.map fun _ => .entered, after)
  | .exit => (.ok .exited, connector.exit)
  | .query query =>
    let result := do (← connector.inspection? catalog).answer query |>.result
    (result.map .answer, connector)

/-- The responses to events, each with the connector after it. -/
def responses (catalog : Catalog) (connector : Connector) :
    List Event → List (Except Failure Response × Connector)
  | [] => []
  | event :: events =>
    let (response, after) := connector.run catalog event
    (response, after) :: responses catalog after events

end Connector

end RelSchema
