import ImportTracking.Timestamp.Json

/-!
# Batch — rows

A batched pipeline is run in numbered batches; each has a row.
-/

namespace ImportTracking

/-- The row of a batch. -/
structure Batch where
  id : Int
  trackerId : Int
  /-- The number of the batch within its tracker, from 1. -/
  number : Int
  /-- The name of the status. -/
  status : String
  createdAt : Timestamp
  updatedAt : Timestamp
deriving DecidableEq, Repr, Inhabited

namespace Batch

/-- Where a batch stands. -/
inductive Status where
  | created
  | started
  | finished
  | failed
  | skipped
deriving DecidableEq, Repr, Inhabited

namespace Status

def all : List Status := [.created, .started, .finished, .failed, .skipped]

/-- The name under which a status is stored. -/
def name : Status → String
  | .created => "created"
  | .started => "started"
  | .finished => "finished"
  | .failed => "failed"
  | .skipped => "skipped"

/-- The name of a status as a variant. -/
def variantName : Status → String
  | .created => "Created"
  | .started => "Started"
  | .finished => "Finished"
  | .failed => "Failed"
  | .skipped => "Skipped"

/-- The status of a name. -/
def ofName? (s : String) : Option Status := all.find? fun t => t.name == s

/-- Reads a status from its variant name. -/
def decoder : Json.Decoder Status := .oneOf (all.map fun s => (s.variantName, s))

end Status

/-- The fields of a batch's row. -/
def fields : Json.Fields Batch :=
  Batch.mk <$> .required "id" .int32 <*> .required "tracker_id" .int32
    <*> .required "batch_number" .int32 <*> .required "status" .string
    <*> .required "created_at" Timestamp.decoder <*> .required "updated_at" Timestamp.decoder

/-- Reads a batch's row. -/
def decoder : Json.Decoder Batch := .record "Model" fields

/-- A batch's row as JSON. -/
def toJson (b : Batch) : Json :=
  .ofMembers
    [("id", .int b.id), ("tracker_id", .int b.trackerId), ("batch_number", .int b.number),
      ("status", .str b.status), ("created_at", b.createdAt.toJson),
      ("updated_at", b.updatedAt.toJson)]

end Batch

end ImportTracking
