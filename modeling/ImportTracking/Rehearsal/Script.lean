import ImportTracking.Delivery

/-!
# Rehearsal — scripts

A rehearsal plays the programs of the coordinator with collaborators that follow a script.  A
script is a list of `Step`s; some of them drive the coordinator, some change what the
collaborators reply from then on, and some change the database as another party would.

A pipeline, a read of an export and a check of the load can have steps that happen meanwhile.
-/

namespace ImportTracking.Rehearsal

/-- A job of a step. -/
inductive JobChoice where
  | given (job : PipelineJob)
  /-- The job of that place among those accepted so far. -/
  | accepted (place : Nat)
deriving DecidableEq, Repr

/-- A tracker of a step. -/
inductive TrackerChoice where
  /-- The tracker of an id, as it is now. -/
  | current (id : Int)
  /-- A tracker as it was when it was remembered, or else the one of an id as it is now. -/
  | remembered (name : String) (otherwise : Int)
deriving DecidableEq, Repr

/-- What a collaborator does from then on. -/
inductive Change where
  /-- The source instance replies this. -/
  | export_ (payload : Json)
  | exportError (message : Option String)
  | loadedSchemas (schemas : List String)
  | loadedTables (tables : List String)
  | loadError (message : Option String)
  | scheduleError (message : Option String)
  /-- So many more batches are accepted. -/
  | batchBudget (count : Option Nat)
  | obtainError (message : Option String)
  | releaseError (message : Option String)
  | batchError (message : Option String)

/-- What another party writes into a tracker's row. -/
structure TrackerEdit where
  status : Option String := none
  jid : Option (Option String) := none
  batched : Option Bool := none
  stage : Option Int := none
  pipeline : Option String := none

/-- What another party writes into an entity's row. -/
structure EntityEdit where
  status : Option String := none
  sourceType : Option String := none

/-- A step of a script. -/
inductive Step where
  | perform (job : JobChoice)
  | handle (job : JobChoice)
  | handleJob (job : JobChoice)
  | handleBatch (id : Int)
  /-- Handles up to `max` of the jobs accepted and not yet handled by a drain. -/
  | drain (max : Nat)
  | runtimeRun (jobs : List (Sum Int JobChoice))
  | performFailure (job : JobChoice) (fault : Fault)
  | snapshot (trackerId : Int) (name : String)
  | transition (tracker : TrackerChoice) (event : String) (jid : Option String)
      (batched : Option Bool)
  | findTracker (id : Int)
  | findEntity (id : Int)
  | listTrackers (entityId : Int)
  | listBatches (trackerId : Int)
  | listFailures (entityId : Int)
  | enqueueBatches (tracker : TrackerChoice) (count : Nat)
  | concurrentEnqueue (tracker : TrackerChoice) (counts : List Nat)
  | failTracker (tracker : TrackerChoice) (entityId : Int) (report : FaultReport) (jid : String)
      (correlationId : Option String)
  | health (trackerId entityId : Int)
  | evaluate (trackerId entityId : Int) (relation : String)
  | registry (name : String)
  | obtain_ (trackerId : Int) (ttl : Duration) (slot : String)
  | release (slot : String)
  | report (entityId : Int)
  /-- Changes replies; the steps given happen during the next read or check. -/
  | set_ (changes : List Change) (exportDuring loadDuring : Option (List Step))
  | updateTracker (id : Int) (edit : TrackerEdit)
  | updateEntity (id : Int) (edit : EntityEdit)
  | deleteRow (table : Database.TableName) (id : Int)
  | dropTable (table : Database.TableName)

namespace Step

/-- The name of a step. -/
def name : Step → String
  | .perform _ => "perform"
  | .handle _ => "handle"
  | .handleJob _ => "handle_job"
  | .handleBatch _ => "handle_job"
  | .drain _ => "drain"
  | .runtimeRun _ => "runtime_run"
  | .performFailure _ _ => "perform_failure"
  | .snapshot _ _ => "snapshot"
  | .transition _ _ _ _ => "transition"
  | .findTracker _ => "find_tracker"
  | .findEntity _ => "find_entity"
  | .listTrackers _ => "list_trackers"
  | .listBatches _ => "list_batches"
  | .listFailures _ => "list_failures"
  | .enqueueBatches _ _ => "enqueue_batches"
  | .concurrentEnqueue _ _ => "concurrent_enqueue"
  | .failTracker _ _ _ _ _ => "fail_tracker"
  | .health _ _ => "health"
  | .evaluate _ _ _ => "evaluate"
  | .registry _ => "registry"
  | .obtain_ _ _ _ => "obtain"
  | .release _ => "release"
  | .report _ => "report"
  | .set_ _ _ _ => "set"
  | .updateTracker _ _ => "update_tracker"
  | .updateEntity _ _ => "update_entity"
  | .deleteRow .entities _ => "delete_entity"
  | .deleteRow .imports _ => "delete_import"
  | .deleteRow _ _ => "delete_tracker"
  | .dropTable _ => "drop_table"

mutual

/-- How many scripts are inside a step. -/
def scripts : Step → Nat
  | .set_ _ exportDuring loadDuring => scriptsGiven exportDuring + scriptsGiven loadDuring
  | _ => 0

/-- How many scripts a script makes that may be given, with those inside of it. -/
def scriptsGiven : Option (List Step) → Nat
  | none => 0
  | some steps => scriptsInside steps + 1

/-- How many scripts are inside of the steps of a script. -/
def scriptsInside : List Step → Nat
  | [] => 0
  | s :: rest => s.scripts + scriptsInside rest

end

end Step

/-- One run of a pipeline: the steps that happen meanwhile, and how it ends. -/
structure ScriptedRun where
  during : List Step
  result : Except Cause Pipeline.Outcome

/-- A pipeline with its runs; when they are used up it runs without a hitch. -/
structure ScriptedPipeline where
  pipeline : Pipeline
  runs : List ScriptedRun

/-- What came of a step. -/
inductive Result where
  | nothing
  | fault (f : Fault)
  | outcome (o : Invocation.Outcome)
  | delivery (d : Delivery)
  | deliveries (ds : List Delivery)
  | stopped
  | tracker (t : Tracker)
  | trackers (ts : List Tracker)
  | batches (bs : List Batch)
  | batchLists (rs : List (Except Fault (List Batch)))
  | failure (f : Failure)
  | failures (fs : List Failure)
  | entity (e : Entity) (sourceVersion : Option String)
  | unknownEvent
  | admission (target : Health.Target) (a : Health.Admission)
  | export_ (s : Export.Snapshot)
  | pipeline (p : Pipeline)
  | ok
  | held
  | noSlot
  | error (text : String)
  | text (s : String)
  | count (n : Nat)

/-- A call to a collaborator, as it is noted down. -/
inductive Event where
  | loadCheck (schema : String) (tables : List String)
  | obtain_ (key : String) (ttl : Duration) (result : Except String Bool)
  | release (key : String) (error : Option String)
  | export_ (trackerId entityId : Int) (relation : String)
  | run (p : Pipeline) (context : Pipeline.Context)
  | schedule (job : PipelineJob) (delay : Duration) (error : Option String)
  | batch (id : Int)
  | performBatch (id : Int)
  | track (report : FaultReport) (attributes : Attributes)
  /-- A step that happened meanwhile, and what came of it. -/
  | during (name : String) (result : Result)

end ImportTracking.Rehearsal
