import ImportTracking.Database.Basic

/-!
# Database — statements

The statements by which programs read and write.  Each is executed as a whole: it gives its
result, or it is refused and leaves the database as it was.  A row that is inserted is read back by
a statement more (`Statement.readsBack`), which always finds it when it is executed.

Main statements: `execute_read` (a statement that reads changes nothing) and `execute_error` (a
refused statement changes nothing).
-/

namespace ImportTracking.Database

/-- What a status update writes into a tracker's row. -/
structure TrackerUpdate where
  status : String
  updatedAt : Timestamp
  /-- The job that writes, if it is to be recorded. -/
  jid : Option String := none
  /-- Whether the tracker is batched, if that is to be recorded. -/
  batched : Option Bool := none
deriving DecidableEq, Repr

namespace TrackerUpdate

/-- The row after the update. -/
def applyTo (u : TrackerUpdate) (t : Tracker) : Tracker :=
  { t with
    status := u.status
    updatedAt := u.updatedAt
    jid := u.jid.or t.jid
    batched := u.batched.getD t.batched }

end TrackerUpdate

/-- A statement. -/
inductive Statement where
  | findImport (id : Int)
  | findEntity (id : Int)
  | findTracker (id : Int)
  | findBatch (trackerId number : Int)
  | findLease (key : String)
  /-- The trackers of an entity, by stage and id. -/
  | trackersOf (entityId : Int)
  /-- The batches of a tracker, by number. -/
  | batchesOf (trackerId : Int)
  /-- The failures of an entity, by the text of their times and id. -/
  | failuresOf (entityId : Int)
  /-- Updates the tracker of an id if its status has this name; counts the rows updated. -/
  | updateTracker (id : Int) (whenStatus : String) (update : TrackerUpdate)
  | insertBatch (trackerId number : Int) (status : String) (at_ : Timestamp)
  /-- Appends to the failure log; the id of the row given is not used. -/
  | insertFailure (row : Failure)
  | insertLease (key token : String) (expiresAt createdAt : Timestamp)
  /-- Deletes the lease of an id if its token is this one. -/
  | deleteLease (id : Int) (token : String)
  /-- Deletes the lease of a key if its token is this one. -/
  | releaseLease (key token : String)
deriving DecidableEq, Repr

namespace Statement

/-- What a statement results in. -/
abbrev Result : Statement → Type
  | .findImport _ => Option Import
  | .findEntity _ => Option Entity
  | .findTracker _ => Option Tracker
  | .findBatch _ _ => Option Batch
  | .findLease _ => Option Lease.Row
  | .trackersOf _ => List Tracker
  | .batchesOf _ => List Batch
  | .failuresOf _ => List Failure
  | .updateTracker _ _ _ => Nat
  | .insertBatch _ _ _ _ => Batch
  | .insertFailure _ => Failure
  | .insertLease _ _ _ _ => Lease.Row
  | .deleteLease _ _ => Unit
  | .releaseLease _ _ => Unit

/-- Whether a statement only reads. -/
def reads : Statement → Bool
  | .findImport _ | .findEntity _ | .findTracker _ | .findBatch _ _ | .findLease _
  | .trackersOf _ | .batchesOf _ | .failuresOf _ => true
  | _ => false

/-- Whether a statement inserts a row, and results in the row that it inserted.  Two statements are
sent for it then: one that inserts, and one that reads the new row back.  `execute` is both of them
executed. -/
def readsBack : Statement → Bool
  | .insertBatch _ _ _ _ | .insertFailure _ | .insertLease _ _ _ _ => true
  | _ => false

end Statement

/-! ### Orders -/

/-- Trackers by stage, then id. -/
def trackerOrder (a b : Tracker) : Bool :=
  a.stage < b.stage || (a.stage == b.stage && a.id ≤ b.id)

/-- Batches by number. -/
def batchOrder (a b : Batch) : Bool := a.number ≤ b.number

/-- Failures by the text of their times, then id. -/
def failureOrder (a b : Failure) : Bool :=
  a.createdAt.columnNotAfter b.createdAt &&
    (!b.createdAt.columnNotAfter a.createdAt || a.id ≤ b.id)

/-! ### Execution -/

/-- The outcome of a write: what it results in and the database then, or the error and the
database as it was. -/
def written {α : Type} (db : Database) (r : Except Error (α × Database)) :
    Except Error α × Database :=
  match r with
  | .ok (a, db') => (.ok a, db')
  | .error e => (.error e, db)

/-- Whether a status update applies to a tracker. -/
def updateApplies (id : Int) (whenStatus : String) (t : Tracker) : Bool :=
  t.id == id && t.status == whenStatus

/-- Updates a tracker's row if it has the status that the writer saw. -/
def updateTracker (db : Database) (id : Int) (whenStatus : String) (u : TrackerUpdate) :
    Except Error (Nat × Database) := do
  let t ← writable .trackers db.trackers
  let rows := t.rows.map fun r => if updateApplies id whenStatus r then u.applyTo r else r
  return ((t.rows.filter (updateApplies id whenStatus)).length,
    { db with trackers := some { t with rows := rows } })

/-- Executes a statement. -/
def execute : (s : Statement) → Database → Except Error s.Result × Database
  | .findImport id, db => ((readable .imports db.imports).map (·.find? id), db)
  | .findEntity id, db => ((readable .entities db.entities).map (·.find? id), db)
  | .findTracker id, db => ((readable .trackers db.trackers).map (·.find? id), db)
  | .findBatch trackerId number, db =>
    ((readable .batches db.batches).map fun t =>
      t.rows.find? fun b => b.trackerId == trackerId && b.number == number, db)
  | .findLease key, db =>
    ((readable .leases db.leases).map fun t => t.rows.find? (·.key == key), db)
  | .trackersOf entityId, db =>
    ((readable .trackers db.trackers).map fun t =>
      (t.rows.filter (·.entityId == entityId)).mergeSort trackerOrder, db)
  | .batchesOf trackerId, db =>
    ((readable .batches db.batches).map fun t =>
      (t.rows.filter (·.trackerId == trackerId)).mergeSort batchOrder, db)
  | .failuresOf entityId, db =>
    ((readable .failures db.failures).map fun t =>
      (t.rows.filter (·.entityId == entityId)).mergeSort failureOrder, db)
  | .updateTracker id whenStatus u, db => written db (db.updateTracker id whenStatus u)
  | .insertBatch trackerId number status at_, db =>
    written db (db.insertBatch fun id => ⟨id, trackerId, number, status, at_, at_⟩)
  | .insertFailure row, db => written db (db.insertFailure fun id => { row with id := id })
  | .insertLease key token expiresAt createdAt, db =>
    written db (db.insertLease fun id => ⟨id, key, token, expiresAt, createdAt⟩)
  | .deleteLease id token, db =>
    written db ((writable .leases db.leases).map fun _ =>
      ((), db.deleteLeases fun l => l.id == id && l.token == token))
  | .releaseLease key token, db =>
    written db ((writable .leases db.leases).map fun _ =>
      ((), db.deleteLeases fun l => l.key == key && l.token == token))

/-- A statement that reads changes nothing. -/
theorem execute_read {s : Statement} (h : s.reads = true) (db : Database) :
    (execute s db).2 = db := by
  cases s <;> simp [Statement.reads] at h <;> rfl

/-- A write that is refused changes nothing. -/
theorem written_error {α : Type} {db : Database} {r : Except Error (α × Database)} {e : Error}
    (h : (written db r).1 = .error e) : (written db r).2 = db := by
  unfold written at *
  split <;> simp_all

/-- A refused statement changes nothing. -/
theorem execute_error {s : Statement} {db : Database} {e : Error}
    (h : (execute s db).1 = .error e) : (execute s db).2 = db := by
  by_cases hr : s.reads = true
  · exact execute_read hr db
  · cases s <;> simp [Statement.reads] at hr <;> exact written_error h

end ImportTracking.Database
