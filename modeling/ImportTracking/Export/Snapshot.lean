import ImportTracking.Export.Payload
import ImportTracking.Word

/-!
# Export — what is known when a pipeline is due

A `Snapshot` is what one poll of the source instance says about one relation.  It is what the
decision about a pipeline is made from.  A poll that fails, and a batch count out of range, both
count as a failed export.

Main statement: `ofReply_batchCount_le` (a snapshot taken from a reply has a batch count that
fits a batch number).
-/

namespace ImportTracking.Export

/-- What is known about the export of a relation. -/
structure Snapshot where
  /-- Nothing is there yet. -/
  empty : Bool
  started : Bool
  failed : Bool
  batched : Bool
  batchCount : Nat
  error : Option String
deriving DecidableEq, Repr, Inhabited

namespace Snapshot

/-- Nothing is there yet. -/
def nothing : Snapshot := ⟨true, false, false, false, 0, none⟩

/-- The export failed. -/
def failure (error : String) : Snapshot := ⟨false, false, true, false, 0, some error⟩

/-- The largest number a batch can have. -/
def maxBatchNumber : Nat := Word.maxSigned32

/-- What a status says. -/
def ofStatus (s : RelationStatus) : Snapshot :=
  if 0 ≤ s.batchCount ∧ s.batchCount ≤ maxBatchNumber then
    { empty := s.state.isNone
      started := s.state == some .started
      failed := s.state == some .failed
      batched := s.batched
      batchCount := s.batchCount.toNat
      error := s.error }
  else
    failure ("Invalid batches_count " ++ toString s.batchCount ++ " in export status")

/-- What a reply of the source instance says about a relation. -/
def ofReply (relation : String) : Except String Payload → Snapshot
  | .error e => failure e
  | .ok payload =>
    match payload.select relation with
    | some status => ofStatus status
    | none => nothing

/-- Whether the export is still to come. -/
def isPending (s : Snapshot) : Bool := s.empty || s.started

/-- The fields of a snapshot. -/
def fields : Json.Fields Snapshot :=
  Snapshot.mk <$> .required "empty" .bool <*> .required "started" .bool
    <*> .required "failed" .bool <*> .required "batched" .bool
    <*> .required "batches_count" .nat32 <*> .optional "error" .string

/-- Reads a snapshot. -/
def decoder : Json.Decoder Snapshot := .record "ExportStatusSnapshot" fields

/-- A snapshot as JSON. -/
def toJson (s : Snapshot) : Json :=
  .ofMembers
    [("empty", .bool s.empty), ("started", .bool s.started), ("failed", .bool s.failed),
      ("batched", .bool s.batched), ("batches_count", .nat s.batchCount),
      ("error", .ofText? s.error)]

theorem ofStatus_batchCount_le (s : RelationStatus) :
    (ofStatus s).batchCount ≤ maxBatchNumber := by
  unfold ofStatus
  split
  · simp only; omega
  · exact Nat.zero_le _

theorem ofReply_batchCount_le (relation : String) (r : Except String Payload) :
    (ofReply relation r).batchCount ≤ maxBatchNumber := by
  unfold ofReply
  split
  · exact Nat.zero_le _
  · split
    · exact ofStatus_batchCount_le _
    · exact Nat.zero_le _

end Snapshot

end ImportTracking.Export
