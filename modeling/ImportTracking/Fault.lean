import ImportTracking.Database.Error

/-!
# Fault — what can go wrong

A `PipelineFault` is terminal: it is recorded as a failure, and the job is not tried again.  Any
other `Fault` goes back to the runtime, which retries the job, or drops it when a row it names
is gone.
-/

namespace ImportTracking

/-- An error of a collaborator, with the contexts put around it, the innermost first. -/
structure Cause where
  message : String
  contexts : List String := []
deriving DecidableEq, Repr, Inhabited

namespace Cause

/-- The wording of a cause: its outermost context. -/
def text (c : Cause) : String := c.contexts.getLast?.getD c.message

end Cause

/-- A condition that ends a tracker. -/
inductive PipelineFault where
  /-- The source instance could not export. -/
  | sourceFailed (message : String)
  /-- The export stayed empty for too long. -/
  | expired (message : String)
  /-- The pipeline gave up. -/
  | fatal (errorClass message : String)
deriving DecidableEq, Repr, Inhabited

namespace PipelineFault

/-- The class of error that the failure log names. -/
def errorClass : PipelineFault → String
  | .sourceFailed _ => "PipelineFailedError"
  | .expired _ => "PipelineExpiredError"
  | .fatal c _ => c

/-- The wording of a fault. -/
def message : PipelineFault → String
  | .sourceFailed m => "Export from source instance failed: " ++ m
  | .expired m => m
  | .fatal _ m => m

end PipelineFault

/-- The kinds of rows that are looked up by id. -/
inductive Resource where
  | tracker
  | entity
deriving DecidableEq, Repr, Inhabited

namespace Resource

def name : Resource → String
  | .tracker => "tracker"
  | .entity => "entity"

end Resource

/-- An error of the coordination of pipelines. -/
inductive Fault where
  /-- A row that a job names does not exist. -/
  | notFound (resource : Resource) (id : Int)
  | database (e : Database.Error)
  /-- An event is not allowed from a status; both by name. -/
  | invalidTransition (status event : String)
  | pipeline (f : PipelineFault)
  | unknownPipeline (name : String)
  /-- A job was not accepted. -/
  | scheduling (cause : Cause)
  | unexpected (cause : Cause)
deriving DecidableEq, Repr, Inhabited

namespace Fault

/-- The class of error that the failure log names. -/
def errorClass : Fault → String
  | .notFound _ _ => "NotFound"
  | .database _ => "DatabaseError"
  | .invalidTransition _ _ => "InvalidTransition"
  | .pipeline f => f.errorClass
  | .unknownPipeline _ => "UnknownPipeline"
  | .scheduling _ => "SchedulingError"
  | .unexpected _ => "UnexpectedError"

/-- The wording of a fault. -/
def message : Fault → String
  | .notFound r id => r.name ++ " " ++ toString id ++ " not found"
  | .database e => "Database error: " ++ e.text
  | .invalidTransition status event =>
    "Cannot apply '" ++ event ++ "' to a tracker in status '" ++ status ++ "'"
  | .pipeline f => f.message
  | .unknownPipeline name => "Pipeline '" ++ name ++ "' is not registered"
  | .scheduling c => "Failed to schedule job: " ++ c.text
  | .unexpected c => c.text

/-- A terminal fault is recorded and not retried. -/
def isTerminal : Fault → Bool
  | .pipeline _ => true
  | _ => false

def isNotFound : Fault → Bool
  | .notFound _ _ => true
  | _ => false

end Fault

/-- What is reported of a fault. -/
structure FaultReport where
  errorClass : String
  message : String
deriving DecidableEq, Repr, Inhabited

namespace Fault

/-- The report of a fault. -/
def report (f : Fault) : FaultReport := ⟨f.errorClass, f.message⟩

end Fault

end ImportTracking
