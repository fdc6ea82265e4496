import ImportTracking.Rehearsal.World
import ImportTracking.Report

/-!
# Rehearsal — playing a script

`Player.play` plays one step; a `Player` answers the calls of the programs that the step runs.
The player of a whole script plays nested scripts too.  Every nested script is taken out of the
world when it is played, so there are no more levels of nesting than nested scripts, and `player`
is given as many.
-/

namespace ImportTracking.Rehearsal

open World

/-- Answers the calls of programs. -/
abbrev Player := (c : Work.Call) → World → Work.Reply c × World

namespace Player

variable (player : Player)

/-- Plays a program. -/
def perform {α : Type} (p : Program Work α) (w : World) : α × World := p.run player w

/-- Plays a task; a fault is what came of it, if there is one. -/
def attempt {α : Type} (t : Work.Task α) (w : World) (result : α → Result) : Result × World :=
  match t.run.run player w with
  | (.ok a, w) => (result a, w)
  | (.error f, w) => (.fault f, w)

/-- The tracker that a step asks for. -/
def chosen (w : World) : TrackerChoice → Work.Task Tracker
  | .current id => Work.onDatabase (Session.findTracker id)
  | .remembered name otherwise =>
    match w.remembered.find? fun r => r.1 == name with
    | some r => return r.2
    | none => Work.onDatabase (Session.findTracker otherwise)

/-- Handles the jobs accepted that no drain has handled, at most `max` of them. -/
def drain : (max : Nat) → World → List Delivery × World
  | 0, w => ([], w)
  | max + 1, w =>
    match w.accepted[w.drained]? with
    | none => ([], w)
    | some job =>
      let (d, w) := (w.coordinator.deliver job).run player { w with drained := w.drained + 1 }
      let (ds, w) := drain max w
      (d :: ds, w)

/-- Handles jobs one after another. -/
def handleAll : List (Sum Int JobChoice) → World → World
  | [], w => w
  | j :: js, w =>
    let job :=
      match j with
      | .inl id => Job.batch id
      | .inr choice => .pipeline (w.job choice)
    handleAll js ((w.coordinator.handle job).run player w).2

/-- Whether a call schedules a batch. -/
def schedulesBatch : Work.Call → Bool
  | .request (.scheduleBatch _) => true
  | _ => false

/-- The turns that fanning trackers out takes at most: one for each batch of the largest count,
and one to end. -/
def fanOutTurns (counts : List Nat) : Nat :=
  (counts.filter fun n => n ≤ Batch.maxCount).foldl max 0 + 1

/-- Fans a tracker out several times at once, and notes the batches down in the order of their
ids.  All fan-outs look for the batch of a number before one of them inserts it, and those that
come too late to insert it find it as soon as the first has read it back; so all of them schedule
one number, in their order, before any of them schedules the next. -/
def enqueueAtOnce (t : Tracker) (counts : List Nat) (w : World) :
    List (Except Fault (List Batch)) × World :=
  let pool : Pool Work (Except Fault (List Batch)) :=
    counts.map fun n => (Batch.enqueueAll t n).run
  let (pool, after) :=
    Pool.rounds schedulesBatch player (fanOutTurns counts) pool { w with events := [] }
  let batchId : Event → Int
    | .batch id => id
    | _ => 0
  let noted := after.events.reverse.mergeSort fun a b => batchId a ≤ batchId b
  (pool.filterMap Program.value?, { after with events := noted.reverse ++ w.events })

/-- The reading of an entity with the version of its source. -/
def findEntityWithVersion (id : Int) : Session.Task (Entity × Option String) := do
  let e ← Session.findEntity id
  let version ← Session.sourceVersion e
  return (e, version)

/-- A report as a rehearsal shows it: without the times of its failures. -/
def undated (r : Report) : Report :=
  { r with failures := r.failures.map fun f => { f with createdAt := .epoch } }

/-- Changes a tracker's row as another party would. -/
def editTracker (id : Int) (edit : TrackerEdit) (w : World) : World :=
  let db := w.session.database
  let change (t : Tracker) : Tracker :=
    { t with
      status := edit.status.getD t.status
      jid := edit.jid.getD t.jid
      batched := edit.batched.getD t.batched
      stage := edit.stage.getD t.stage
      pipelineName := edit.pipeline.getD t.pipelineName }
  let trackers := db.trackers.map fun t => t.modify id change
  { w with session := { w.session with database := { db with trackers := trackers } } }

/-- Changes an entity's row as another party would. -/
def editEntity (id : Int) (edit : EntityEdit) (w : World) : World :=
  let db := w.session.database
  let change (e : Entity) : Entity :=
    { e with
      status := edit.status.getD e.status
      sourceType := edit.sourceType.getD e.sourceType }
  let entities := db.entities.map fun t => t.modify id change
  { w with session := { w.session with database := { db with entities := entities } } }

/-- The admission of a tracker of an entity, with what was asked about. -/
def checkHealth (c : Coordinator) (trackerId entityId : Int) :
    Work.Task (Health.Target × Health.Admission) := do
  let t ← Work.onDatabase (Session.findTracker trackerId)
  let e ← Work.onDatabase (Session.findEntity entityId)
  let a ← (Health.admission c.settings c.destinations t e : Program Work _)
  return (Health.target c.settings c.destinations t e, a)

/-- Ends a tracker with an error, on behalf of no job of the queue. -/
def failTracker (w : World) (choice : TrackerChoice) (entityId : Int) (report : FaultReport)
    (jid : String) (correlationId : Option String) : Work.Task Failure := do
  let t ← chosen w choice
  let (e, version) ← Work.onDatabase (findEntityWithVersion entityId)
  FailureLog.failTracker t e report (.of e t version) jid correlationId

/-- Applies an event to a tracker; there is no row when no event has that name. -/
def applyEvent (w : World) (choice : TrackerChoice) (event : String) (jid : Option String)
    (batched : Option Bool) : Work.Task (Option Tracker) := do
  let t ← chosen w choice
  match Tracker.Event.ofName? event with
  | none => return none
  | some e => return some (← Work.onDatabase (t.transition ⟨e, jid, batched⟩))

/-- Polls the export of a tracker. -/
def evaluate (trackerId entityId : Int) (relation : String) : Work.Task Export.Snapshot := do
  let t ← Work.onDatabase (Session.findTracker trackerId)
  let e ← Work.onDatabase (Session.findEntity entityId)
  (Coordinator.evaluateExport t e relation : Program Work _)

/-- Plays a step. -/
def play (s : Step) (w : World) : Result × World :=
  let c := w.coordinator
  match s with
  | .perform job => attempt player (c.perform (w.job job)) w .outcome
  | .handle job =>
    let (d, w) := perform player (c.deliver (w.job job)) w
    (.delivery d, w)
  | .handleJob job => (.nothing, (perform player (c.handle (.pipeline (w.job job))) w).2)
  | .handleBatch id => (.nothing, (perform player (c.handle (.batch id)) w).2)
  | .drain max =>
    let (ds, w) := drain player max w
    (.deliveries ds, w)
  | .runtimeRun jobs => (.stopped, handleAll player jobs w)
  | .performFailure job f => attempt player (Coordinator.performFailure (w.job job) f) w .failure
  | .snapshot id name =>
    match attempt player (Work.onDatabase (Session.findTracker id)) w .tracker with
    | (.tracker t, w) =>
      (.tracker t,
        { w with remembered := (name, t) :: w.remembered.filter fun r => r.1 != name })
    | other => other
  | .transition choice event jid batched =>
    attempt player (applyEvent w choice event jid batched) w fun t =>
      match t with
      | some t => .tracker t
      | none => .unknownEvent
  | .findTracker id => attempt player (Work.onDatabase (Session.findTracker id)) w .tracker
  | .findEntity id =>
    attempt player (Work.onDatabase (findEntityWithVersion id)) w fun r => .entity r.1 r.2
  | .listTrackers id =>
    attempt player (Work.onDatabase (Session.query (.trackersOf id))) w .trackers
  | .listBatches id =>
    attempt player (Work.onDatabase (Session.query (.batchesOf id))) w .batches
  | .listFailures id =>
    attempt player (Work.onDatabase (Session.query (.failuresOf id))) w .failures
  | .enqueueBatches choice count =>
    attempt player (chosen w choice >>= fun t => Batch.enqueueAll t count) w .batches
  | .concurrentEnqueue choice counts =>
    match (chosen w choice).run.run player w with
    | (.ok t, w) =>
      let (rs, w) := enqueueAtOnce player t counts w
      (.batchLists rs, w)
    | (.error f, w) => (.fault f, w)
  | .failTracker choice entityId report jid correlationId =>
    attempt player (failTracker w choice entityId report jid correlationId) w .failure
  | .health trackerId entityId =>
    attempt player (checkHealth c trackerId entityId) w fun r => .admission r.1 r.2
  | .evaluate trackerId entityId relation =>
    attempt player (evaluate trackerId entityId relation) w .export_
  | .registry name =>
    match c.registry.find? name with
    | some p => (.pipeline p, w)
    | none => (.fault (.unknownPipeline name), w)
  | .obtain_ trackerId ttl slot =>
    match w.obtain_ (c.settings.leaseKey trackerId) ttl with
    | (.ok (some lease), w) =>
      (.ok, { w with slots := (slot, lease) :: w.slots.filter fun s => s.1 != slot })
    | (.ok none, w) => (.held, w)
    | (.error e, w) => (.error e.text, w)
  | .release slot =>
    match w.slots.find? fun s => s.1 == slot with
    | none => (.noSlot, w)
    | some s =>
      match w.release s.2 with
      | (.ok _, w) => (.ok, w)
      | (.error e, w) => (.error e.text, w)
  | .report entityId =>
    match w.inSession (Report.load entityId).run with
    | (.ok r, w) => (.text (undated r).render, w)
    | (.error f, w) => (.error f.message, w)
  | .set_ changes exportDuring loadDuring =>
    let w := changes.foldl World.change w
    (.nothing,
      { w with
        exportDuring := exportDuring.getD w.exportDuring
        loadDuring := loadDuring.getD w.loadDuring })
  | .updateTracker id edit =>
    attempt player (Work.onDatabase (Session.findTracker id)) (editTracker id edit w) .tracker
  | .updateEntity id edit =>
    attempt player (Work.onDatabase (Session.findEntity id)) (editEntity id edit w) fun e =>
      .text e.status
  | .deleteRow table id =>
    match w.session.database.deleteRow table id with
    | .ok (n, db) => (.count n, { w with session := { w.session with database := db } })
    | .error e => (.fault (.database e), w)
  | .dropTable table =>
    match w.session.database.dropExisting table with
    | .ok db => (.nothing, { w with session := { w.session with database := db } })
    | .error e => (.fault (.database e), w)

/-- Plays steps that happen during a request, and notes down what came of each. -/
def playDuring : List Step → World → World
  | [], w => w
  | s :: rest, w =>
    let (r, w) := play player s w
    playDuring rest (w.note (.during s.name r))

end Player

/-- Answers calls, with nested scripts up to so many levels. -/
def player : (levels : Nat) → Player
  | 0 => World.answer fun _ w => w
  | levels + 1 => World.answer (player levels).playDuring

/-! ### Whole scripts -/

/-- What a rehearsal shows after a step. -/
structure Observation where
  result : Result
  events : List Event
  trackers : Option (List Tracker)
  batches : Option (List Batch)
  failures : Option (List Failure)

/-- Plays the steps of a script and shows what there is after each, unless one panics. -/
def observe (p : Player) : List Step → World → Option (List Observation)
  | [], _ => some []
  | s :: rest, w =>
    let (r, w) := p.play s { w with events := [] }
    let db := w.session.database
    let seen : Observation :=
      { result := r
        events := w.events.reverse
        trackers := db.trackers.map (·.rows)
        batches := db.batches.map (·.rows)
        failures := db.failures.map (·.rows) }
    if w.panicked then none else (observe p rest w).map (seen :: ·)

/-- How many scripts are inside of the runs of pipelines. -/
def scriptsOfRuns (ps : List ScriptedPipeline) : Nat :=
  (ps.flatMap (·.runs)).foldl (fun n r => n + Step.scriptsInside r.during + 1) 0

/-- What a rehearsal starts from. -/
structure Setting where
  settings : Settings
  pipelines : List ScriptedPipeline
  destinations : List Health.Destination
  leasesShared : Bool
  database : Database

/-- The clock of rehearsals, which stands still. -/
def clock : Timestamp := .ofSeconds 1795046400

/-- The names of what is drawn in a rehearsal. -/
def naming : Identifier.Naming :=
  { Identifier.Naming.standard with
    jid := fun n => "gen-" ++ toString n
    correlation := fun _ => "fresh" }

namespace Setting

/-- The world that a rehearsal starts with. -/
def world (s : Setting) : World :=
  { coordinator :=
      { settings := s.settings
        registry := s.pipelines.foldl (fun r p => r.register p.pipeline) {}
        destinations := s.destinations }
    session :=
      { database := s.database
        clock := clock
        supply := { naming := naming } }
    leasesShared := s.leasesShared
    runs := s.pipelines.reverse.map fun p => (p.pipeline.name, p.runs) }

/-- Plays a script. -/
def rehearse (s : Setting) (script : List Step) : Option (List Observation) :=
  observe (player (scriptsOfRuns s.pipelines + Step.scriptsInside script + 1)) script s.world

end Setting

end ImportTracking.Rehearsal
