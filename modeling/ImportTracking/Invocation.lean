import ImportTracking.Batch.FanOut
import ImportTracking.Decision
import ImportTracking.FailureLog
import ImportTracking.Health

/-!
# Invocation — one step of a tracker

`Coordinator.perform` drives the tracker of a job one step forward.  It loads the entity and the
tracker; it may put the job off when the destination is under load; then, under the lease of the
tracker, it looks at the tracker again and, if that may be run, decides and acts.  A terminal
fault is recorded as a failure there; every other fault is left to the caller.

An `Outcome` says what was done.
-/

namespace ImportTracking

/-- What an invocation did. -/
inductive Invocation.Outcome where
  | skipped
  | finished
  | reEnqueued (delay : Duration)
  | deferred (delay : Duration)
  | retrying (delay : Duration)
  | batchesEnqueued (count : Nat)
  | failed (errorClass : String)
  | notRunnable (status : String)
  | leaseHeld
deriving DecidableEq, Repr, Inhabited

/-- A duration as JSON. -/
def Duration.toJson (d : Duration) : Json :=
  .ofMembers [("secs", .nat d.secs), ("nanos", .nat d.subsecNanos)]

namespace Invocation.Outcome

/-- Whether the outcome is that a job for the tracker was scheduled. -/
def isRescheduled : Outcome → Bool
  | .reEnqueued _ | .deferred _ | .retrying _ => true
  | _ => false

/-- An outcome as JSON. -/
def toJson : Outcome → Json
  | .skipped => .str "Skipped"
  | .finished => .str "Finished"
  | .reEnqueued d => .ofMembers [("ReEnqueued", .ofMembers [("delay", d.toJson)])]
  | .deferred d => .ofMembers [("Deferred", .ofMembers [("delay", d.toJson)])]
  | .retrying d => .ofMembers [("Retrying", .ofMembers [("delay", d.toJson)])]
  | .batchesEnqueued n => .ofMembers [("BatchesEnqueued", .ofMembers [("count", .nat n)])]
  | .failed c => .ofMembers [("Failed", .ofMembers [("exception_class", .str c)])]
  | .notRunnable s => .ofMembers [("NotRunnable", .ofMembers [("status", .str s)])]
  | .leaseHeld => .str "LeaseHeld"

end Invocation.Outcome

/-- What coordination goes by. -/
structure Coordinator where
  settings : Settings := {}
  registry : Pipeline.Registry := {}
  destinations : List Health.Destination := []

namespace Coordinator

open Invocation (Outcome)

variable (c : Coordinator)

/-- The time since a tracker was created, or its entity; none if that lies ahead. -/
def age (now : Timestamp) (t : Tracker) (e : Entity) : Duration :=
  ⟨(now.nanosFrom (t.createdAt.getD e.createdAt)).toNat⟩

/-- What the source instance says about the export of a relation. -/
def evaluateExport (t : Tracker) (e : Entity) (relation : String) :
    Program Work Export.Snapshot := do
  let reply ← Work.request (.readExport t e relation)
  return Export.Snapshot.ofReply relation (reply.mapError Cause.text)

/-- Moves a tracker to `started` on behalf of a job. -/
def start (t : Tracker) (job : PipelineJob) (batched : Option Bool) : Work.Task Tracker :=
  Work.onDatabase (t.transition { event := .start, jid := some job.jid, batched := batched })

/-- Moves a tracker to `finished`. -/
def finish (t : Tracker) : Work.Task Tracker := Work.onDatabase (t.transition { event := .finish })

/-- Runs the pipeline of a started tracker and acts on how it ended. -/
def runPipeline (p : Pipeline) (started : Tracker) (e : Entity) (job : PipelineJob) :
    Work.Task Outcome := do
  match ← Work.expect .unexpected (Work.request (.runPipeline p ⟨started, e, job.jid⟩)) with
  | .ok =>
    let _ ← finish started
    return .finished
  | .retry delay _ =>
    let _ ← Work.onDatabase (started.transition { event := .retry, jid := some job.jid })
    Work.reEnqueue job delay
    return .retrying delay
  | .fatal errorClass message => throw (.pipeline (.fatal errorClass message))

/-- Carries a decision out. -/
def act (d : Decision) (pipeline : Option Pipeline) (t : Tracker) (e : Entity)
    (job : PipelineJob) : Work.Task Outcome :=
  match d with
  | .skip => do
    let _ ← Work.onDatabase (t.transition { event := .skip, jid := some job.jid })
    return .skipped
  | .fail f => throw (.pipeline f)
  | .reEnqueue => do
    Work.reEnqueue job c.settings.reEnqueueDelay
    return .reEnqueued c.settings.reEnqueueDelay
  | .finishEmptyBatched => do
    let started ← start t job (some true)
    let _ ← finish started
    return .finished
  | .startBatched count => do
    let started ← start t job (some true)
    let _ ← Batch.enqueueAll started count
    return .batchesEnqueued count
  | .run =>
    match pipeline with
    | none => throw (.unknownPipeline t.pipelineName)
    | some p => do
      let started ← start t job none
      runPipeline p started e job

/-- Polls the export of a tracker, if its pipeline takes its data from one. -/
def pollExport (pipeline : Option Pipeline) (t : Tracker) (e : Entity) :
    Program Work (Option Export.Snapshot) :=
  match pipeline with
  | none => return none
  | some p =>
    if p.fileExtraction && !e.isFailed then do
      let s ← evaluateExport t e p.relation
      return some s
    else return none

/-- Decides on a tracker that may be run, and acts. -/
def runTracker (t : Tracker) (e : Entity) (job : PipelineJob) : Work.Task Outcome := do
  let pipeline := c.registry.find? t.pipelineName
  let exportStatus ← (pollExport pipeline t e : Program Work _)
  let now ← (Work.ofSession Session.now : Program Work Timestamp)
  let decision := Decision.decide
    { entityFailed := e.isFailed
      fileExtraction := pipeline.any (·.fileExtraction)
      exportStatus := exportStatus
      age := age now t e
      emptyExportTimeout := c.settings.emptyExportTimeout }
  c.act decision pipeline t e job

/-- Records a terminal fault; any other fault is handed on. -/
def recordIfTerminal (e : Entity) (attributes : Attributes) (job : PipelineJob) (f : Fault) :
    Work.Task Outcome :=
  if f.isTerminal then do
    let t ← Work.onDatabase (Session.findTracker job.trackerId)
    let _ ← FailureLog.failTracker t e f.report attributes job.jid (some job.correlationId)
    return .failed f.errorClass
  else throw f

/-- The work done under the lease of a tracker. -/
def performLocked (job : PipelineJob) (e : Entity) (attributes : Attributes) :
    Work.Task Outcome := do
  let t ← Work.onDatabase (Session.findTracker job.trackerId)
  if t.isRunnable then
    tryCatch (c.runTracker t e job) (recordIfTerminal e (attributes.withStatus t) job)
  else return .notRunnable t.status

/-- Does the work of a job under the lease of its tracker. -/
def performUnderLease (job : PipelineJob) (e : Entity) (attributes : Attributes) :
    Work.Task Outcome :=
  ExceptT.mk ((Lease.guarded
    (Work.request
      (.obtainLease (c.settings.leaseKey job.trackerId) c.settings.leaseTimeout))
    (fun lease => Work.request (.releaseLease lease))
    (c.performLocked job e attributes).run).bind fun result =>
      .done (result.getD (.ok .leaseHeld)))

/-- What a job is about. -/
structure Subject where
  entity : Entity
  tracker : Tracker
  attributes : Attributes

/-- Looks up what a job is about. -/
def load (job : PipelineJob) : Session.Task Subject := do
  let e ← Session.findEntity job.entityId
  let t ← Session.findTracker job.trackerId
  let version ← Session.sourceVersion e
  return ⟨e, t, .of e t version⟩

/-- Drives the tracker of a job one step forward. -/
def perform (job : PipelineJob) : Work.Task Outcome := do
  let s ← Work.onDatabase (load job)
  match ← (Health.admission c.settings c.destinations s.tracker s.entity : Program Work _) with
  | .defer delay _ =>
    Work.reEnqueue job delay
    return .deferred delay
  | .proceed => c.performUnderLease job s.entity s.attributes

/-- Ends the tracker of a job with the fault that used up its retries. -/
def performFailure (job : PipelineJob) (f : Fault) : Work.Task Failure := do
  let s ← Work.onDatabase (load job)
  FailureLog.failTracker s.tracker s.entity f.report s.attributes job.jid
    (some job.correlationId)

end Coordinator

end ImportTracking
