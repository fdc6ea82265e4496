import ImportTracking.Tracker.Basic
import ImportTracking.Entity
import ImportTracking.Batch.Basic
import ImportTracking.Failure
import ImportTracking.Lease.Row
import ImportTracking.Database.Error
import ImportTracking.Database.Table
import ImportTracking.Database.Schema

/-!
# Database — contents

A `Database` holds the tables that exist and how many migrations have been applied to it.  An
insert is refused when its table does not exist, when a row with its id or its unique columns is
there already, or when a foreign key names no row; it then leaves everything as it was.
Deleting rows deletes the rows that belong to them.
-/

namespace ImportTracking

namespace Database

instance : HasId Import := ⟨Import.id⟩
instance : HasId Entity := ⟨Entity.id⟩
instance : HasId Tracker := ⟨Tracker.id⟩
instance : HasId Failure := ⟨Failure.id⟩
instance : HasId Batch := ⟨Batch.id⟩
instance : HasId Lease.Row := ⟨Lease.Row.id⟩

end Database

open Database in
/-- The tables that exist, and the number of migrations applied. -/
structure Database where
  imports : Option (Table Import) := none
  entities : Option (Table Entity) := none
  trackers : Option (Table Tracker) := none
  failures : Option (Table Failure) := none
  batches : Option (Table Batch) := none
  leases : Option (Table Lease.Row) := none
  /-- How many migrations have been applied. -/
  applied : Nat := 0
deriving Inhabited

namespace Database

/-! ### Refusals -/

/-- Why the database refuses a statement. -/
inductive Refusal where
  | noSuchTable (table : TableName)
  /-- A foreign key names no row. -/
  | noParent
  /-- A row with this id exists. -/
  | sameId (table : TableName)
  /-- A row with these unique columns exists. -/
  | sameColumns (table : TableName) (columns : List String)
deriving DecidableEq, Repr

namespace Refusal

/-- The database's own words. -/
def text (r : Refusal) : String :=
  "error returned from database: " ++
    match r with
    | .noSuchTable t => "(code: 1) no such table: " ++ t.text
    | .noParent => "(code: 787) FOREIGN KEY constraint failed"
    | .sameId t => "(code: 1555) UNIQUE constraint failed: " ++ t.text ++ ".id"
    | .sameColumns t cs =>
      "(code: 2067) UNIQUE constraint failed: " ++
        ", ".intercalate (cs.map fun c => t.text ++ "." ++ c)

/-- The error of a refused read. -/
def onRead (r : Refusal) : Error := .query r.text

/-- The error of a refused write. -/
def onWrite (r : Refusal) : Error := .execution r.text

end Refusal

/-- The rows of a table that is to be read. -/
def readable {Row : Type} (name : TableName) (t : Option (Table Row)) :
    Except Error (Table Row) :=
  match t with
  | some t => .ok t
  | none => .error (Refusal.noSuchTable name).onRead

/-- A table that is to be written. -/
def writable {Row : Type} (name : TableName) (t : Option (Table Row)) :
    Except Error (Table Row) :=
  match t with
  | some t => .ok t
  | none => .error (Refusal.noSuchTable name).onWrite

/-- Refuses a write, unless it is admitted. -/
def refuseUnless (admitted : Bool) (r : Refusal) : Except Error Unit :=
  if admitted then .ok () else .error r.onWrite

/-! ### Views -/

def importRows (db : Database) : List Import := (db.imports.map Table.rows).getD []

def entityRows (db : Database) : List Entity := (db.entities.map Table.rows).getD []

def trackerRows (db : Database) : List Tracker := (db.trackers.map Table.rows).getD []

def failureRows (db : Database) : List Failure := (db.failures.map Table.rows).getD []

def batchRows (db : Database) : List Batch := (db.batches.map Table.rows).getD []

def leaseRows (db : Database) : List Lease.Row := (db.leases.map Table.rows).getD []

def hasImport (db : Database) (id : Int) : Bool := db.importRows.any (·.id == id)

def hasEntity (db : Database) (id : Int) : Bool := db.entityRows.any (·.id == id)

def hasTracker (db : Database) (id : Int) : Bool := db.trackerRows.any (·.id == id)

/-! ### Inserting -/

/-- The id a row gets: the one asked for, if it is free, or the next one. -/
def chooseId {Row : Type} [HasId Row] (name : TableName) (t : Table Row) (asked : Option Int) :
    Except Error Int :=
  match asked with
  | none => .ok t.nextId
  | some id => (refuseUnless (t.find? id).isNone (.sameId name)).map fun _ => id

/-- Inserts an import. -/
def insertImport (db : Database) (asked : Option Int) (row : Int → Import) :
    Except Error (Import × Database) := do
  let t ← writable .imports db.imports
  let id ← chooseId .imports t asked
  return (row id, { db with imports := some (t.insert (row id)) })

/-- Inserts an entity of an import. -/
def insertEntity (db : Database) (asked : Option Int) (row : Int → Entity) :
    Except Error (Entity × Database) := do
  let t ← writable .entities db.entities
  let id ← chooseId .entities t asked
  refuseUnless (db.hasImport (row id).importId) .noParent
  return (row id, { db with entities := some (t.insert (row id)) })

/-- Inserts a tracker of an entity. -/
def insertTracker (db : Database) (asked : Option Int) (row : Int → Tracker) :
    Except Error (Tracker × Database) := do
  let t ← writable .trackers db.trackers
  let id ← chooseId .trackers t asked
  refuseUnless (db.hasEntity (row id).entityId) .noParent
  return (row id, { db with trackers := some (t.insert (row id)) })

/-- Inserts a row of the failure log. -/
def insertFailure (db : Database) (row : Int → Failure) : Except Error (Failure × Database) := do
  let t ← writable .failures db.failures
  let new := row t.nextId
  refuseUnless (db.hasEntity new.entityId) .noParent
  return (new, { db with failures := some (t.insert new) })

/-- Whether two batches have the same number in the same tracker. -/
def sameBatch (a b : Batch) : Bool := a.trackerId == b.trackerId && a.number == b.number

/-- Inserts a batch of a tracker. -/
def insertBatch (db : Database) (row : Int → Batch) : Except Error (Batch × Database) := do
  let t ← writable .batches db.batches
  let new := row t.nextId
  refuseUnless (!t.rows.any (sameBatch new))
    (.sameColumns .batches ["tracker_id", "batch_number"])
  refuseUnless (db.hasTracker new.trackerId) .noParent
  return (new, { db with batches := some (t.insert new) })

/-- Inserts a lease. -/
def insertLease (db : Database) (row : Int → Lease.Row) :
    Except Error (Lease.Row × Database) := do
  let t ← writable .leases db.leases
  let new := row t.nextId
  refuseUnless (!t.rows.any (·.key == new.key)) (.sameColumns .leases ["lease_key"])
  return (new, { db with leases := some (t.insert new) })

/-! ### Deleting -/

/-- Deletes batches. -/
def deleteBatches (db : Database) (gone : Batch → Bool) : Database :=
  { db with batches := db.batches.map (Table.filter · fun b => !gone b) }

/-- Deletes rows of the failure log. -/
def deleteFailures (db : Database) (gone : Failure → Bool) : Database :=
  { db with failures := db.failures.map (Table.filter · fun f => !gone f) }

/-- Deletes leases. -/
def deleteLeases (db : Database) (gone : Lease.Row → Bool) : Database :=
  { db with leases := db.leases.map (Table.filter · fun l => !gone l) }

/-- Deletes trackers, with their batches. -/
def deleteTrackers (db : Database) (gone : Tracker → Bool) : Database :=
  let ids := (db.trackerRows.filter gone).map (·.id)
  deleteBatches { db with trackers := db.trackers.map (Table.filter · fun r => !gone r) }
    fun b => ids.contains b.trackerId

/-- Deletes entities, with their trackers and failures. -/
def deleteEntities (db : Database) (gone : Entity → Bool) : Database :=
  let ids := (db.entityRows.filter gone).map (·.id)
  let db := { db with entities := db.entities.map (Table.filter · fun r => !gone r) }
  deleteFailures (db.deleteTrackers fun t => ids.contains t.entityId) fun f =>
    ids.contains f.entityId

/-- Deletes imports, with their entities. -/
def deleteImports (db : Database) (gone : Import → Bool) : Database :=
  let ids := (db.importRows.filter gone).map (·.id)
  deleteEntities { db with imports := db.imports.map (Table.filter · fun r => !gone r) }
    fun e => ids.contains e.importId

/-- Deletes the row of an id; says how many rows of that table this deleted. -/
def deleteRow (db : Database) (name : TableName) (id : Int) : Except Error (Nat × Database) :=
  match name with
  | .imports => do
    let t ← writable name db.imports
    return ((t.rows.filter (·.id == id)).length, db.deleteImports (·.id == id))
  | .entities => do
    let t ← writable name db.entities
    return ((t.rows.filter (·.id == id)).length, db.deleteEntities (·.id == id))
  | .trackers => do
    let t ← writable name db.trackers
    return ((t.rows.filter (·.id == id)).length, db.deleteTrackers (·.id == id))
  | .failures => do
    let t ← writable name db.failures
    return ((t.rows.filter (·.id == id)).length, db.deleteFailures (·.id == id))
  | .batches => do
    let t ← writable name db.batches
    return ((t.rows.filter (·.id == id)).length, db.deleteBatches (·.id == id))
  | .leases => do
    let t ← writable name db.leases
    return ((t.rows.filter (·.id == id)).length, db.deleteLeases (·.id == id))

/-! ### Tables as such -/

/-- Whether a table exists. -/
def hasTable (db : Database) : TableName → Bool
  | .imports => db.imports.isSome
  | .entities => db.entities.isSome
  | .trackers => db.trackers.isSome
  | .failures => db.failures.isSome
  | .batches => db.batches.isSome
  | .leases => db.leases.isSome

/-- How many rows a table has, if it exists. -/
def rowCount? (db : Database) : TableName → Option Nat
  | .imports => db.imports.map (·.rows.length)
  | .entities => db.entities.map (·.rows.length)
  | .trackers => db.trackers.map (·.rows.length)
  | .failures => db.failures.map (·.rows.length)
  | .batches => db.batches.map (·.rows.length)
  | .leases => db.leases.map (·.rows.length)

/-- Creates a table, without rows. -/
def createTable (db : Database) : TableName → Database
  | .imports => { db with imports := some .empty }
  | .entities => { db with entities := some .empty }
  | .trackers => { db with trackers := some .empty }
  | .failures => { db with failures := some .empty }
  | .batches => { db with batches := some .empty }
  | .leases => { db with leases := some .empty }

/-- The database without a table, its rows and all that belongs to them. -/
def dropTable (db : Database) : TableName → Database
  | .imports => { db.deleteImports (fun _ => true) with imports := none }
  | .entities => { db.deleteEntities (fun _ => true) with entities := none }
  | .trackers => { db.deleteTrackers (fun _ => true) with trackers := none }
  | .failures => { db with failures := none }
  | .batches => { db with batches := none }
  | .leases => { db with leases := none }

/-- Drops a table; one that does not exist is an error. -/
def dropExisting (db : Database) (name : TableName) : Except Error Database :=
  if db.hasTable name then .ok (db.dropTable name)
  else .error (Refusal.noSuchTable name).onWrite

end Database

end ImportTracking
