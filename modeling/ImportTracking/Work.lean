import ImportTracking.Session
import ImportTracking.Lease.Basic
import ImportTracking.Pipeline
import ImportTracking.Job
import ImportTracking.Attributes
import ImportTracking.Export.Snapshot

/-!
# Work — programs that coordinate

A program that coordinates pipelines uses the database and makes requests to collaborators: the
health signal of the destination, the lease store, the source instance, the pipelines
themselves, the scheduler, the handler of batches and the error tracker.  Any of them may fail,
where the reply says so; what they reply is left open.

Main statements: `run_task_bind`, `run_tryCatch` (how tasks are put together of programs).
-/

namespace ImportTracking

/-- A request to a collaborator. -/
inductive Work.Request where
  /-- Is a schema, or one of the tables, under load? -/
  | isUnderLoad (schema : String) (tables : List String)
  | obtainLease (key : String) (ttl : Duration)
  | releaseLease (lease : Lease)
  /-- How does the export of a relation stand? -/
  | readExport (tracker : Tracker) (entity : Entity) (relation : String)
  | runPipeline (pipeline : Pipeline) (context : Pipeline.Context)
  /-- Accept a job, to be delivered after a time. -/
  | schedulePipeline (job : PipelineJob) (delay : Duration)
  /-- Accept a batch job, to be delivered at once. -/
  | scheduleBatch (batchId : Int)
  | performBatch (batchId : Int)
  /-- Take note of an error. -/
  | track (report : FaultReport) (attributes : Attributes)
deriving DecidableEq, Repr

/-- What is replied to each request. -/
abbrev Work.Request.Reply : Work.Request → Type
  | .isUnderLoad _ _ => Except Cause Bool
  | .obtainLease _ _ => Except Cause (Option Lease)
  | .releaseLease _ => Except Cause Unit
  | .readExport _ _ _ => Except Cause Export.Payload
  | .runPipeline _ _ => Except Cause Pipeline.Outcome
  | .schedulePipeline _ _ => Except Cause Unit
  | .scheduleBatch _ => Except Cause Unit
  | .performBatch _ => Except Cause Unit
  | .track _ _ => Unit

/-- A call of a program that coordinates. -/
inductive Work.Call where
  | session (c : Session.Call)
  | request (r : Work.Request)

/-- What is replied to each call. -/
abbrev Work.Reply : Work.Call → Type
  | .session c => Session.Reply c
  | .request r => r.Reply

/-- The interface of programs that coordinate. -/
abbrev Work : Interface := ⟨Work.Call, Work.Reply⟩

namespace Work

/-- A program that coordinates and may fail. -/
abbrev Task (α : Type) := ExceptT Fault (Program Work) α

/-- A program that uses only the database. -/
def ofSession {α : Type} (p : Program Session α) : Program Work α :=
  p.mapCalls (J := Work) Call.session fun _ r => r

/-- A task that uses only the database. -/
def onDatabase {α : Type} (t : Session.Task α) : Task α := ExceptT.mk (ofSession t.run)

/-- Makes a request. -/
def request (r : Request) : Program Work r.Reply := Program.ask (I := Work) (.request r)

/-- Goes on only with a good result. -/
def expect {α β : Type} (fault : β → Fault) (p : Program Work (Except β α)) : Task α :=
  ExceptT.mk (p.bind fun r =>
    .done (match r with
      | .ok a => .ok a
      | .error e => .error (fault e)))

/-- Schedules a job; one that is not accepted is a fault. -/
def schedule (job : PipelineJob) (delay : Duration) : Task Unit :=
  expect .scheduling (request (.schedulePipeline job delay))

/-- Puts a job back into the queue under a new id. -/
def reEnqueue (job : PipelineJob) (delay : Duration) : Task Unit := do
  let jid ← (ofSession Session.newJid : Program Work String)
  schedule (job.reEnqueued jid) delay

section
variable {α β : Type} {t : Task α} {f : α → Task β}

/-- A sequence of tasks is a sequence of programs that ends at a fault. -/
theorem run_task_bind :
    (t >>= f).run = t.run.bind fun
      | .ok a => (f a).run
      | .error e => .done (.error e) := by
  refine congrArg t.run.bind (funext fun x => ?_)
  cases x <;> rfl

/-- A program among tasks has no fault of its own. -/
theorem run_lift_bind {p : Program Work α} :
    ((monadLift p : Task α) >>= f).run = p.bind fun a => (f a).run :=
  Program.bind_assoc p _ _

/-- A caught fault is handled from where it arose. -/
theorem run_tryCatch {t : Task β} {f : Fault → Task β} :
    (tryCatch t f).run = t.run.bind fun
      | .ok b => .done (.ok b)
      | .error e => (f e).run := by
  refine congrArg t.run.bind (funext fun x => ?_)
  cases x <;> rfl

/-- A result that is expected to be good is what the program gives, its error as a fault. -/
theorem run_expect {ε : Type} {fault : ε → Fault} {p : Program Work (Except ε β)} :
    (expect fault p).run = p.bind fun x => .done (x.mapError fault) := by
  refine congrArg p.bind (funext fun x => ?_)
  cases x <;> rfl

end

end Work

end ImportTracking
