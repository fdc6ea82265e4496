import ImportTracking.Json.Decoder

/-!
# Job — what is scheduled

A pipeline job asks for one invocation of a tracker, a batch job for the work on one batch.
Jobs descended from one another share tracker, entity and correlation id.  A job that is put
back into the queue gets a new id and starts its attempts anew; a job that is retried after an
error keeps its id and counts an attempt more.
-/

namespace ImportTracking

/-- A job that drives a tracker one step. -/
structure PipelineJob where
  trackerId : Int
  entityId : Int
  jid : String
  correlationId : String
  /-- How many times this job was retried. -/
  attempt : Nat
deriving DecidableEq, Repr, Inhabited

namespace PipelineJob

/-- A first job for a tracker. -/
def first (trackerId entityId : Int) (jid correlationId : String) : PipelineJob :=
  ⟨trackerId, entityId, jid, correlationId, 0⟩

/-- The job put back into the queue under a new id. -/
def reEnqueued (job : PipelineJob) (jid : String) : PipelineJob :=
  { job with jid := jid, attempt := 0 }

/-- The job for the next attempt. -/
def retried (job : PipelineJob) : PipelineJob := { job with attempt := job.attempt + 1 }

/-- The fields of a job. -/
def fields : Json.Fields PipelineJob :=
  PipelineJob.mk <$> .required "tracker_id" .int32 <*> .required "entity_id" .int32
    <*> .required "jid" .string <*> .required "correlation_id" .string
    <*> .required "attempt" .nat32

/-- Reads a pipeline job. -/
def decoder : Json.Decoder PipelineJob := .record "PipelineJob" fields

/-- A pipeline job as JSON. -/
def toJson (job : PipelineJob) : Json :=
  .ofMembers
    [("tracker_id", .int job.trackerId), ("entity_id", .int job.entityId), ("jid", .str job.jid),
      ("correlation_id", .str job.correlationId), ("attempt", .nat job.attempt)]

end PipelineJob

/-- A job of either kind. -/
inductive Job where
  | pipeline (job : PipelineJob)
  | batch (batchId : Int)
deriving DecidableEq, Repr, Inhabited

namespace Job

/-- Reads a job. -/
def decoder : Json.Decoder Job :=
  .choice
    [("Pipeline", .carrying fun j => (PipelineJob.decoder j).map .pipeline),
      ("Batch", .carryingRecord (.batch <$> .required "batch_id" .int32))]

/-- A job as JSON. -/
def toJson : Job → Json
  | .pipeline job => .ofMembers [("Pipeline", job.toJson)]
  | .batch id => .ofMembers [("Batch", .ofMembers [("batch_id", .int id)])]

end Job

end ImportTracking
