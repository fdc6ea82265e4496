import ImportTracking.Rehearsal.Play
import ImportTracking.Database.Migration

/-!
# Rehearsal — seeds

The rows that a rehearsal starts with.  They are inserted in the order of the tables, and the
first one that the database refuses decides the error.
-/

namespace ImportTracking.Rehearsal.Seed

/-- An import to be inserted. -/
structure ImportSeed where
  id : Option Int := none
  sourceVersion : Option String := none

/-- An entity to be inserted. -/
structure EntitySeed where
  id : Option Int := none
  importId : Int := 1
  sourceType : String := Entity.projectType
  sourceFullPath : String := "acme/widgets"
  status : String := Entity.Status.started.name
  /-- How long ago it was created, in seconds. -/
  age : Int := 0

/-- A tracker to be inserted. -/
structure TrackerSeed where
  id : Option Int := none
  entityId : Int := 1
  pipelineName : String := "issues"
  stage : Int := 0
  status : String := Tracker.Status.enqueued.name
  batched : Bool := false
  jid : Option String := none
  /-- How long ago it was created, in seconds, if that is known. -/
  age : Option Int := some 0

/-- A batch to be inserted. -/
structure BatchSeed where
  trackerId : Int := 1
  number : Int := 1
  status : String := Batch.Status.created.name

/-- A failure to be inserted. -/
structure FailureSeed where
  entityId : Int := 1
  pipeline : String := "issues"
  step : String := FailureLog.step
  errorClass : String := "RuntimeError"
  message : String := "boom"
  correlationId : String := "corr"
  at_ : Option Timestamp := none

/-- The rows to be inserted. -/
structure Rows where
  imports : List ImportSeed := []
  entities : List EntitySeed := []
  trackers : List TrackerSeed := []
  batches : List BatchSeed := []
  failures : List FailureSeed := []

/-- The instant so many seconds before the clock of rehearsals. -/
def ago (seconds : Int) : Timestamp := { clock with seconds := clock.seconds - seconds }

def plantImport (db : Database) (s : ImportSeed) : Except Database.Error Database :=
  (db.insertImport s.id fun id =>
    ⟨id, "https://source.example", s.sourceVersion, Entity.Status.started.name, clock,
      clock⟩).map (·.2)

def plantEntity (db : Database) (s : EntitySeed) : Except Database.Error Database :=
  (db.insertEntity s.id fun id =>
    ⟨id, s.importId, s.sourceType, s.sourceFullPath, s.status, ago s.age, clock⟩).map (·.2)

def plantTracker (db : Database) (s : TrackerSeed) : Except Database.Error Database :=
  (db.insertTracker s.id fun id =>
    ⟨id, s.entityId, s.pipelineName, s.stage, s.status, s.batched, s.jid, s.age.map ago,
      clock⟩).map (·.2)

def plantBatch (db : Database) (s : BatchSeed) : Except Database.Error Database :=
  (db.insertBatch fun id => ⟨id, s.trackerId, s.number, s.status, clock, clock⟩).map (·.2)

def plantFailure (db : Database) (s : FailureSeed) : Except Database.Error Database :=
  (db.insertFailure fun id =>
    ⟨id, s.entityId, s.pipeline, s.step, s.errorClass, s.message, s.correlationId,
      s.at_.getD clock⟩).map (·.2)

/-- A database with all tables and these rows. -/
def plant (rows : Rows) : Except Database.Error Database := do
  let db ← rows.imports.foldlM plantImport Database.fresh
  let db ← rows.entities.foldlM plantEntity db
  let db ← rows.trackers.foldlM plantTracker db
  let db ← rows.batches.foldlM plantBatch db
  rows.failures.foldlM plantFailure db

end ImportTracking.Rehearsal.Seed
