import ImportTracking.Session
import ImportTracking.Text.Padding

/-!
# Report — where an entity stands

A report on one entity: its trackers by stage, with the batches of those that are batched, and
its failures by time.  `Report.load` reads it from the database, `Report.render` writes it for
people, `Report.toJson` for programs.
-/

namespace ImportTracking

/-- A tracker with its batches. -/
structure Report.TrackerPart where
  tracker : Tracker
  batches : List Batch
deriving DecidableEq, Repr

/-- A report on an entity. -/
structure Report where
  entity : Entity
  trackers : List Report.TrackerPart
  failures : List Failure
deriving DecidableEq, Repr

namespace Report

/-- Reads the batches of each tracker that is batched. -/
def loadParts : List Tracker → Session.Task (List TrackerPart)
  | [] => return []
  | t :: rest => do
    let batches ← if t.batched then Session.query (.batchesOf t.id) else pure []
    let parts ← loadParts rest
    return ⟨t, batches⟩ :: parts

/-- Reads the report on the entity of an id. -/
def load (entityId : Int) : Session.Task Report := do
  let e ← Session.findEntity entityId
  let trackers ← Session.query (.trackersOf entityId)
  let parts ← loadParts trackers
  let failures ← Session.query (.failuresOf entityId)
  return ⟨e, parts, failures⟩

/-! ### For people -/

/-- The line of a batch. -/
def batchLine (b : Batch) : String :=
  "      batch " ++ Text.padEnd 4 (toString b.number) ++ " " ++ b.status ++ "\n"

/-- The line of a tracker. -/
def trackerLine (t : Tracker) : String :=
  "  #" ++ Text.padEnd 6 (toString t.id) ++ " stage " ++ Text.padEnd 3 (toString t.stage) ++ " " ++
    Text.padEnd 32 t.pipelineName ++ " " ++ Text.padEnd 9 t.status ++
    " jid=" ++ t.jid.getD "-" ++ (if t.batched then " batched" else "") ++ "\n"

/-- The line of a failure. -/
def failureLine (f : Failure) : String :=
  "  " ++ f.createdAt.display ++ " " ++ f.pipelineClass ++ " " ++ f.exceptionClass ++ ": " ++
    f.exceptionMessage ++ " (correlation " ++ f.correlationId ++ ")\n"

/-- The first line. -/
def headLine (e : Entity) : String :=
  "Entity " ++ toString e.id ++ " (" ++ e.sourceType ++ ") " ++ e.sourceFullPath ++ " [" ++
    e.status ++ "]\n"

/-- The lines of a tracker and its batches. -/
def partLines (p : TrackerPart) : String :=
  trackerLine p.tracker ++ String.join (p.batches.map batchLine)

/-- A report for people to read. -/
def render (r : Report) : String :=
  headLine r.entity ++ "\nTrackers:\n" ++ String.join (r.trackers.map partLines) ++
    if r.failures.isEmpty then "\nNo failures\n"
    else "\nFailures:\n" ++ String.join (r.failures.map failureLine)

/-! ### For programs -/

/-- A report as JSON. -/
def toJson (r : Report) : Json :=
  .ofMembers
    [("entity", r.entity.toJson),
      ("trackers",
        .arr (r.trackers.map fun p =>
          .ofMembers
            [("tracker", p.tracker.toJson), ("batches", .arr (p.batches.map Batch.toJson))])),
      ("failures", .arr (r.failures.map Failure.toJson))]

end Report

end ImportTracking
