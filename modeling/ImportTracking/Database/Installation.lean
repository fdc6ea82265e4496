import ImportTracking.Database.Revision
import ImportTracking.Json.Printer
import ImportTracking.Database.Upkeep

/-!
# Database — installations

An `Installation` is a database with its catalog and the names of the migrations that were applied
to it.  Statements that change the make-up of a database are refused where they do not fit the
catalog.  A migration runs its statements one after another; one that is refused ends the run, and
what the statements before it did stays.

`up` applies the migrations that are pending, in the order of the list; `down` rolls back those that
are applied, in reverse; each as many as it is told, or all.
-/

namespace ImportTracking.Database

/-! ### Rows as such -/

/-- The rows of a table as JSON, each column a member. -/
def rowsOf (db : Database) : TableName → List Json
  | .imports => db.importRows.map Import.toJson
  | .entities => db.entityRows.map Entity.toJson
  | .trackers => db.trackerRows.map Tracker.toJson
  | .failures => db.failureRows.map Failure.toJson
  | .batches => db.batchRows.map Batch.toJson
  | .leases => db.leaseRows.map Lease.Row.toJson

/-- What a row holds in some columns; nothing if it leaves one of them out. -/
def cells? (columns : List String) (row : Json) : Option (List String) :=
  columns.mapM fun name =>
    match row.get? name with
    | none | some .null => none
    | some j => some j.compact

/-- Whether two rows of a table hold the same in some columns. -/
def repeats (db : Database) (t : TableName) (columns : List String) : Bool :=
  !decide ((db.rowsOf t).filterMap (cells? columns)).Nodup

/-- An edit of rows. -/
inductive Edit where
  | insertImport (asked : Option Int) (row : Int → Import)
  | insertEntity (asked : Option Int) (row : Int → Entity)
  | insertTracker (asked : Option Int) (row : Int → Tracker)
  | insertFailure (row : Int → Failure)
  | insertBatch (row : Int → Batch)
  | insertLease (row : Int → Lease.Row)
  /-- Deletes the row of an id, and what belongs to it. -/
  | delete (table : TableName) (id : Int)

namespace Edit

/-- Makes an edit. -/
def run (db : Database) : Edit → Except Error Database
  | insertImport asked row => (db.insertImport asked row).map (·.2)
  | insertEntity asked row => (db.insertEntity asked row).map (·.2)
  | insertTracker asked row => (db.insertTracker asked row).map (·.2)
  | insertFailure row => (db.insertFailure row).map (·.2)
  | insertBatch row => (db.insertBatch row).map (·.2)
  | insertLease row => (db.insertLease row).map (·.2)
  | delete table id => (db.deleteRow table id).map (·.2)

end Edit

/-! ### Refusals -/

/-- The error of a statement that changes the make-up of a database. -/
def refusedChange (code : Nat) (text : String) : Error :=
  .execution ("error returned from database: (code: " ++ toString code ++ ") " ++ text)

end ImportTracking.Database

namespace ImportTracking

open Database

/-- A database with its catalog. -/
structure Installation where
  database : Database := {}
  catalog : Catalog := {}
  /-- The names of the migrations applied, in order. -/
  history : List String := []

namespace Installation

/-- A run that may be refused half-way. -/
abbrev Procedure := ExceptT Error (StateM Installation) Unit

/-- Runs a procedure: its result, and the installation then. -/
def run (p : Procedure) (i : Installation) : Except Error Unit × Installation := p.run.run i

/-! ### Changes -/

variable (i : Installation)

/-- Creates a table, unless it exists. -/
def createTable (d : TableDefinition) : Installation :=
  if i.catalog.hasTable d.table then i
  else { i with database := i.database.createTable d.table, catalog := i.catalog.addTable d }

/-- Creates an index: of a name that is free, over columns of a table that exists, in which no two
rows hold the same if it is unique. -/
def createIndex (x : IndexDefinition) : Except Error Installation :=
  if i.catalog.hasIndex x.name then
    .error (refusedChange 1 ("index " ++ x.name ++ " already exists"))
  else
    match i.catalog.table? x.table with
    | none => .error (refusedChange 1 ("no such table: main." ++ x.table.text))
    | some d =>
      match x.columns.find? fun name => !d.hasColumn name with
      | some name => .error (refusedChange 1 ("no such column: " ++ name))
      | none =>
        if x.unique && i.database.repeats x.table x.columns then
          .error (Refusal.sameColumns x.table x.columns).onWrite
        else .ok { i with catalog := i.catalog.addIndex x }

/-- Drops a table that exists, with its indexes, its rows and what belongs to them. -/
def dropTable (t : TableName) : Except Error Installation :=
  if i.catalog.hasTable t then
    .ok { i with database := i.database.dropTable t, catalog := i.catalog.drop t }
  else .error (Refusal.noSuchTable t).onWrite

/-- Executes a statement that changes the make-up of a database. -/
def changed : Change → Except Error Installation
  | .createTable d => .ok (i.createTable d)
  | .createIndex x => i.createIndex x
  | .dropTable t => i.dropTable t

/-- Executes such a statement; one that is refused changes nothing. -/
def change (c : Change) : Procedure := do
  match (← get).changed c with
  | .ok i => set i
  | .error e => throw e

/-! ### Migrations -/

/-- The revisions that are applied, in order. -/
def applied : List Revision := Revision.all.filter fun r => i.history.contains r.name

/-- The revisions still to be applied, in order. -/
def pending : List Revision := Revision.all.filter fun r => !i.history.contains r.name

/-- The names of migrations that were applied and that there are none of. -/
def unknown : List String := i.history.filter fun name => !Revision.all.any (·.name == name)

/-- Takes note that a migration was applied. -/
def record (name : String) : Installation :=
  { i with
    database := { i.database with applied := i.database.applied + 1 }
    history := i.history ++ [name] }

/-- Takes note that a migration was rolled back. -/
def forget (name : String) : Installation :=
  { i with
    database := { i.database with applied := i.database.applied - 1 }
    history := i.history.filter (· != name) }

/-- Applies a revision. -/
def apply (r : Revision) : Procedure := do
  r.up.forM change
  modify fun i => i.record r.name

/-- Rolls a revision back. -/
def rollBack (r : Revision) : Procedure := do
  r.down.forM change
  modify fun i => i.forget r.name

/-- Refuses to go on where a migration was applied that is not among the revisions. -/
def checkHistory : Procedure := do
  let unknown := (← get).unknown
  if !unknown.isEmpty then
    throw (.custom ("\n".intercalate (unknown.map fun name => "Migration file of version '" ++
      name ++ "' is missing, this migration has been applied but its file is missing")))

/-- Applies the next migrations: `n` of them, or all. -/
def up (n : Option Nat) : Procedure := do
  checkHistory
  let pending := (← get).pending
  (pending.take (n.getD pending.length)).forM apply

/-- Rolls the latest migrations back: `n` of them, or all. -/
def down (n : Option Nat) : Procedure := do
  checkHistory
  let latest := (← get).applied.reverse
  (latest.take (n.getD latest.length)).forM rollBack

/-- Rolls everything back and applies it again. -/
def reset : Procedure := do
  down none
  up none

/-! ### Upkeep -/

/-- A step of the upkeep of an installation. -/
inductive Step where
  | up (count : Option Nat)
  | down (count : Option Nat)
  | reset
  | edit (e : Edit)

/-- Makes a step; an edit that is refused changes nothing. -/
def perform : Step → Except Error Unit × Installation
  | .up n => run (up n) i
  | .down n => run (down n) i
  | .reset => run reset i
  | .edit e =>
    match e.run i.database with
    | .ok db => (.ok (), { i with database := db })
    | .error err => (.error err, i)

/-- The insert of a minimal row. -/
def minimalInsert (table : TableName) (parent number : Int) : Edit :=
  let t := Timestamp.epoch
  let filler := Upkeep.filler
  match table with
  | .imports => .insertImport none fun id => ⟨id, filler, none, filler, t, t⟩
  | .entities => .insertEntity none fun id => ⟨id, parent, filler, filler, filler, t, t⟩
  | .trackers =>
    .insertTracker none fun id => ⟨id, parent, filler, 0, filler, false, none, none, t⟩
  | .failures => .insertFailure fun id => ⟨id, parent, filler, filler, filler, filler, filler, t⟩
  | .batches => .insertBatch fun id => ⟨id, parent, number, filler, t, t⟩
  | .leases => .insertLease fun id => ⟨id, "k" ++ toString number, filler, t, t⟩

/-- Makes a step of a script, which names tables by their texts. -/
def follow : Upkeep.Step → Except Error Unit × Installation
  | .up n => i.perform (.up n)
  | .down n => i.perform (.down n)
  | .reset => i.perform .reset
  | .insert table parent number =>
    match TableName.ofText? table with
    | some t => i.perform (.edit (minimalInsert t parent number))
    | none => (.error (Upkeep.unknownTable table), i)
  | .delete table id =>
    match TableName.ofText? table with
    | some t => i.perform (.edit (.delete t id))
    | none => (.error (Upkeep.unknownTable table), i)

/-- What there is after each step of a script. -/
def script : List Upkeep.Step → Installation → List (Except Error Unit × Installation)
  | [], _ => []
  | s :: rest, i => i.follow s :: script rest (i.follow s).2

end Installation

end ImportTracking
