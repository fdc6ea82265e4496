import ImportTracking.Export.Snapshot
import ImportTracking.Fault
import ImportTracking.Duration

/-!
# Decision — what a due pipeline does next

`decide` says what is to be done with a tracker that may be run.  The tests are made in this
order: a failed entity, a pipeline that waits for no export, a failed export, an export that has
been empty for too long, an export still to come, a batched export, and the rest runs.

Main statement: `decide_of_entityFailed` (a failed entity is skipped whatever else holds).
-/

namespace ImportTracking

/-- What is to be done with a tracker. -/
inductive Decision where
  | skip
  | fail (f : PipelineFault)
  | reEnqueue
  | startBatched (count : Nat)
  | finishEmptyBatched
  | run
deriving DecidableEq, Repr, Inhabited

namespace Decision

/-- What is known about a tracker that may be run. -/
structure Circumstances where
  entityFailed : Bool
  /-- Whether the pipeline takes its data from an export. -/
  fileExtraction : Bool
  /-- The export, when it was polled. -/
  exportStatus : Option Export.Snapshot
  /-- The time since the tracker was created. -/
  age : Duration
  emptyExportTimeout : Duration

/-- Why an export that stays empty ends a tracker. -/
def emptyExportMessage : String := "Empty export status on source instance"

/-- What to do about an export. -/
def ofExport (s : Export.Snapshot) (age timeout : Duration) : Decision :=
  if s.failed then .fail (.sourceFailed (s.error.getD ""))
  else if s.empty && timeout ≤ age then .fail (.expired emptyExportMessage)
  else if s.isPending then .reEnqueue
  else if s.batched then
    if s.batchCount = 0 then .finishEmptyBatched else .startBatched s.batchCount
  else .run

/-- What to do in the given circumstances. -/
def decide (c : Circumstances) : Decision :=
  if c.entityFailed then .skip
  else
    match c.exportStatus with
    | none => .run
    | some s =>
      if c.fileExtraction then ofExport s c.age c.emptyExportTimeout else .run

theorem decide_of_entityFailed {c : Circumstances} (h : c.entityFailed = true) :
    decide c = .skip := by
  simp [decide, h]

end Decision

end ImportTracking
