import ImportTracking.Tracker.Status
import ImportTracking.Timestamp.Json

/-!
# Tracker — rows

A tracker follows one pipeline of one entity.  Its row stores the status by name, and the name
may be one this library does not know: `Tracker.known?` is the status then.
-/

namespace ImportTracking

/-- The row of a tracker. -/
structure Tracker where
  id : Int
  entityId : Int
  pipelineName : String
  stage : Int
  /-- The name of the status. -/
  status : String
  batched : Bool
  /-- The job that last wrote the row. -/
  jid : Option String
  createdAt : Option Timestamp
  updatedAt : Timestamp
deriving DecidableEq, Repr, Inhabited

namespace Tracker

/-- The status of a tracker, when its name is known. -/
def known? (t : Tracker) : Option Status := Status.ofName? t.status

/-- Whether the tracker may be run. -/
def isRunnable (t : Tracker) : Bool :=
  match t.known? with
  | some s => s.isRunnable
  | none => false

/-- The fields of a tracker's row. -/
def fields : Json.Fields Tracker :=
  Tracker.mk <$> .required "id" .int32 <*> .required "entity_id" .int32
    <*> .required "pipeline_name" .string <*> .required "stage" .int32
    <*> .required "status" .string <*> .required "batched" .bool
    <*> .optional "jid" .string <*> .optional "created_at" Timestamp.decoder
    <*> .required "updated_at" Timestamp.decoder

/-- Reads a tracker's row. -/
def decoder : Json.Decoder Tracker := .record "Model" fields

/-- A tracker's row as JSON. -/
def toJson (t : Tracker) : Json :=
  .ofMembers
    [("id", .int t.id), ("entity_id", .int t.entityId), ("pipeline_name", .str t.pipelineName),
      ("stage", .int t.stage), ("status", .str t.status), ("batched", .bool t.batched),
      ("jid", .ofText? t.jid), ("created_at", (t.createdAt.map Timestamp.toJson).getD .null),
      ("updated_at", t.updatedAt.toJson)]

end Tracker

end ImportTracking
