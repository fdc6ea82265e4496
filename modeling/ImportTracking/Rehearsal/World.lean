import ImportTracking.Rehearsal.Script
import ImportTracking.Lease.Memory
import ImportTracking.Lease.Shared

/-!
# Rehearsal — collaborators

The `World` of a rehearsal: the database with its clock, the leases, and what the collaborators
reply.  `World.respond` answers requests; what happens during a request is played by a function
it is given, so that requests can be nested.
-/

namespace ImportTracking.Rehearsal

/-- Everything a rehearsal is played against. -/
structure World where
  coordinator : Coordinator
  session : Session.State
  /-- Whether leases are shared through the database. -/
  leasesShared : Bool
  leases : Lease.Memory := {}
  /-- The runs each pipeline still has to make. -/
  runs : List (String × List ScriptedRun) := []
  payload : Json := .null
  exportError : Option String := none
  exportDuring : List Step := []
  loadedSchemas : List String := []
  loadedTables : List String := []
  loadError : Option String := none
  loadDuring : List Step := []
  scheduleError : Option String := none
  batchBudget : Option Nat := none
  obtainError : Option String := none
  releaseError : Option String := none
  batchError : Option String := none
  /-- The jobs accepted so far, in order. -/
  accepted : List PipelineJob := []
  /-- How many of them were handled by drains. -/
  drained : Nat := 0
  slots : List (String × Lease) := []
  remembered : List (String × Tracker) := []
  /-- The events noted down, the latest first. -/
  events : List Event := []
  /-- Whether a lease was asked for so long that the clock cannot tell when it would expire. -/
  panicked : Bool := false

namespace World

/-- Notes an event down. -/
def note (w : World) (e : Event) : World := { w with events := e :: w.events }

/-- Plays a program that uses the database. -/
def inSession {α : Type} (w : World) (p : Program Session α) : α × World :=
  let r := Session.run p w.session
  (r.1, { w with session := r.2 })

/-- A failure that a script asks for. -/
def scripted (message : String) : Cause := ⟨message, []⟩

/-- Makes the change that a step asks for. -/
def change (w : World) : Change → World
  | .export_ j => { w with payload := j }
  | .exportError m => { w with exportError := m }
  | .loadedSchemas ss => { w with loadedSchemas := ss }
  | .loadedTables ts => { w with loadedTables := ts }
  | .loadError m => { w with loadError := m }
  | .scheduleError m => { w with scheduleError := m }
  | .batchBudget n => { w with batchBudget := n }
  | .obtainError m => { w with obtainError := m }
  | .releaseError m => { w with releaseError := m }
  | .batchError m => { w with batchError := m }

/-! ### Leases -/

/-- The text of what an attempt to obtain a lease replied. -/
def obtainNote : Except Cause (Option Lease) → Except String Bool
  | .ok lease => .ok lease.isSome
  | .error e => .error e.text

/-- Obtains a lease from the store that there is. -/
def obtain_ (w : World) (key : String) (ttl : Duration) :
    Except Cause (Option Lease) × World :=
  let (reply, w) : Except Cause (Option Lease) × World :=
    match w.obtainError with
    | some m => (.error (scripted m), w)
    | none =>
      if w.leasesShared then w.inSession (Lease.Shared.tryObtain key ttl)
      else
        let (token, w) := w.inSession Session.newToken
        match w.leases.tryObtainBy Lease.Memory.lastInstant 0 token key ttl with
        | (some lease, m) => (.ok lease, { w with leases := m })
        | (none, m) => (.ok none, { w with leases := m, panicked := true })
  (reply, w.note (.obtain_ key ttl (obtainNote reply)))

/-- Releases a lease.  The call is noted down before the store is asked, with the error that a
script asks for. -/
def release (w : World) (lease : Lease) : Except Cause Unit × World :=
  let w := w.note (.release lease.key w.releaseError)
  match w.releaseError with
  | some m => (.error (scripted m), w)
  | none =>
    if w.leasesShared then w.inSession (Lease.Shared.release lease)
    else (.ok (), { w with leases := w.leases.release lease })

/-! ### Requests -/

/-- What the health signal replies. -/
def loadReply (w : World) (schema : String) (tables : List String) : Except Cause Bool :=
  match w.loadError with
  | some m => .error (scripted m)
  | none =>
    .ok (w.loadedSchemas.contains schema || tables.any fun t => w.loadedTables.contains t)

/-- What the source instance replies. -/
def exportReply (w : World) : Except Cause Export.Payload :=
  match w.exportError with
  | some m => .error (scripted m)
  | none => (Export.Payload.ofJson w.payload).mapError scripted

/-- The next run of a pipeline. -/
def nextRun (w : World) (name : String) : ScriptedRun × World :=
  match w.runs.find? fun r => r.1 == name with
  | some (_, run :: rest) =>
    (run, { w with runs := (name, rest) :: w.runs.filter fun r => r.1 != name })
  | _ => (⟨[], .ok .ok⟩, w)

/-- Takes a job, if jobs are accepted. -/
def schedule (w : World) (job : PipelineJob) (delay : Duration) : Except Cause Unit × World :=
  let w := w.note (.schedule job delay w.scheduleError)
  match w.scheduleError with
  | some m => (.error (scripted m), w)
  | none => (.ok (), { w with accepted := w.accepted ++ [job] })

/-- Why a batch is not accepted. -/
def batchQueueFull : String := "batch queue full"

/-- Takes a batch job, if there is room for it. -/
def scheduleBatch (w : World) (id : Int) : Except Cause Unit × World :=
  match w.batchBudget with
  | some 0 => (.error (scripted batchQueueFull), w)
  | some (n + 1) => (.ok (), { w with batchBudget := some n }.note (.batch id))
  | none => (.ok (), w.note (.batch id))

/-- Answers a request; `meanwhile` plays what happens during it. -/
def respond (meanwhile : List Step → World → World) :
    (r : Work.Request) → World → r.Reply × World
  | .isUnderLoad schema tables, w =>
    let w := w.note (.loadCheck schema tables)
    let w := meanwhile w.loadDuring { w with loadDuring := [] }
    (w.loadReply schema tables, w)
  | .obtainLease key ttl, w => w.obtain_ key ttl
  | .releaseLease lease, w => w.release lease
  | .readExport t e relation, w =>
    let w := w.note (.export_ t.id e.id relation)
    let w := meanwhile w.exportDuring { w with exportDuring := [] }
    (w.exportReply, w)
  | .runPipeline p context, w =>
    let w := w.note (.run p context)
    let (run, w) := w.nextRun p.name
    (run.result, meanwhile run.during w)
  | .schedulePipeline job delay, w => w.schedule job delay
  | .scheduleBatch id, w => w.scheduleBatch id
  | .performBatch id, w =>
    let w := w.note (.performBatch id)
    (match w.batchError with
      | some m => .error (scripted m)
      | none => .ok (), w)
  | .track report attributes, w => ((), w.note (.track report attributes))

/-- Answers a call. -/
def answer (meanwhile : List Step → World → World) :
    (c : Work.Call) → World → Work.Reply c × World
  | .session c, w =>
    let r := Session.answer c w.session
    (r.1, { w with session := r.2 })
  | .request r, w => w.respond meanwhile r

/-- The job that a step asks for. -/
def job (w : World) : JobChoice → PipelineJob
  | .given job => job
  | .accepted place => w.accepted[place]?.getD (.first 1 1 "jid" "corr")

end World

end ImportTracking.Rehearsal
