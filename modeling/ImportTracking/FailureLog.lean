import ImportTracking.Tracker.Transition
import ImportTracking.Work

/-!
# Failure log — ending a tracker with an error

`FailureLog.failTracker` moves a tracker to `failed`, tells the error tracker, and appends a row
to the failure log, in this order.
-/

namespace ImportTracking.FailureLog

/-- The step that failures are recorded under. -/
def step : String := "pipeline_run"

/-- Ends a tracker with an error.  Without a correlation id a new one is drawn. -/
def failTracker (t : Tracker) (e : Entity) (report : FaultReport) (attributes : Attributes)
    (jid : String) (correlationId : Option String) : Work.Task Failure := do
  let failed ← Work.onDatabase (t.transition { event := .fail, jid := some jid })
  (Work.request (.track report (attributes.withStatus failed)) : Program Work Unit)
  let correlation ←
    match correlationId with
    | some c => pure c
    | none => (Work.ofSession Session.newCorrelation : Program Work String)
  let now ← (Work.ofSession Session.now : Program Work Timestamp)
  Work.onDatabase (Session.query (.insertFailure
    { id := 0
      entityId := e.id
      pipelineClass := t.pipelineName
      pipelineStep := step
      exceptionClass := report.errorClass
      exceptionMessage := report.message
      correlationId := correlation
      createdAt := now }))

end ImportTracking.FailureLog
