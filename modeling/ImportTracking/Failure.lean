import ImportTracking.Timestamp.Json

/-!
# Failure — rows of the failure log

The log of failures is only ever appended to.  A row says which pipeline of which entity failed,
at which step, with which class of error and message; the correlation id ties it to the job that
was being worked on.
-/

namespace ImportTracking

/-- A row of the failure log. -/
structure Failure where
  id : Int
  entityId : Int
  pipelineClass : String
  pipelineStep : String
  exceptionClass : String
  exceptionMessage : String
  correlationId : String
  createdAt : Timestamp
deriving DecidableEq, Repr, Inhabited

namespace Failure

/-- The fields of a row. -/
def fields : Json.Fields Failure :=
  Failure.mk <$> .required "id" .int32 <*> .required "entity_id" .int32
    <*> .required "pipeline_class" .string <*> .required "pipeline_step" .string
    <*> .required "exception_class" .string <*> .required "exception_message" .string
    <*> .required "correlation_id_value" .string <*> .required "created_at" Timestamp.decoder

/-- Reads a row. -/
def decoder : Json.Decoder Failure := .record "Model" fields

/-- A row as JSON. -/
def toJson (f : Failure) : Json :=
  .ofMembers
    [("id", .int f.id), ("entity_id", .int f.entityId), ("pipeline_class", .str f.pipelineClass),
      ("pipeline_step", .str f.pipelineStep), ("exception_class", .str f.exceptionClass),
      ("exception_message", .str f.exceptionMessage),
      ("correlation_id_value", .str f.correlationId), ("created_at", f.createdAt.toJson)]

end Failure

end ImportTracking
