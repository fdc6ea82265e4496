import ImportTracking.Invocation

/-!
# Delivery — handling the jobs of the queue

`Coordinator.deliver` handles one pipeline job.  A job whose rows are gone is dropped.  After
any other fault the job is retried, with a delay that grows with the number of attempts; when
the retries are used up, or the retry is not accepted, the fault ends the tracker.
-/

namespace ImportTracking

/-- What became of a job. -/
inductive Delivery where
  | completed (outcome : Invocation.Outcome)
  /-- The job is tried again: the number of that attempt, and the delay before it. -/
  | retrying (attempt : Nat) (delay : Duration)
  /-- The retries are used up. -/
  | exhausted
  /-- A row that the job names is gone. -/
  | dropped
deriving DecidableEq, Repr, Inhabited

namespace Delivery

/-- A count, kept within 64 bits. -/
def saturated (n : Nat) : Nat := min n Duration.maxSecs

/-- The delay before the next attempt, after so many retries: the fourth power of their number
and 15, in seconds. -/
def retryBackoff (retries : Nat) : Duration :=
  .ofSecs (saturated (saturated (Nat.pow retries 4) + 15))

end Delivery

namespace Coordinator

variable (c : Coordinator)

/-- Ends the tracker of a job; a fault in doing so is passed over. -/
def exhaust (job : PipelineJob) (f : Fault) : Program Work Delivery := do
  let _ ← (performFailure job f).run
  return .exhausted

/-- Acts on a fault of a job. -/
def afterFault (job : PipelineJob) (f : Fault) : Program Work Delivery := do
  if f.isNotFound then return .dropped
  else if c.settings.maxRetries ≤ job.attempt then exhaust job f
  else
    let delay := Delivery.retryBackoff job.attempt
    match ← Work.request (.schedulePipeline job.retried delay) with
    | .ok _ => return .retrying job.retried.attempt delay
    | .error _ => exhaust job f

/-- Handles a pipeline job. -/
def deliver (job : PipelineJob) : Program Work Delivery := do
  match ← (c.perform job).run with
  | .ok outcome => return .completed outcome
  | .error f => c.afterFault job f

/-- Handles a job of either kind. -/
def handle : Job → Program Work Unit
  | .pipeline job => do
    let _ ← c.deliver job
    return ()
  | .batch id => do
    let _ ← Work.request (.performBatch id)
    return ()

end Coordinator

end ImportTracking
