import ImportTracking.Database.Migration

/-!
# Database — upkeep

Scripts of migrations, inserts and deletions on a database, with what there is after each step.
A row that upkeep inserts is minimal: only its foreign key and its unique columns are chosen.
-/

namespace ImportTracking.Database.Upkeep

/-- A step of upkeep. -/
inductive Step where
  /-- Applies so many migrations, or all. -/
  | up (count : Option Nat)
  /-- Rolls so many migrations back, or all. -/
  | down (count : Option Nat)
  | reset
  /-- Inserts a row; `parent` is its foreign key, `number` its number or part of its key. -/
  | insert (table : String) (parent number : Int)
  | delete (table : String) (id : Int)
deriving DecidableEq, Repr

/-- What is put into columns that are not chosen. -/
def filler : String := "x"

/-- Inserts a minimal row into a table. -/
def insertMinimal (db : Database) (table : TableName) (parent number : Int) :
    Except Error Database :=
  let t := Timestamp.epoch
  match table with
  | .imports =>
    (db.insertImport none fun id => ⟨id, filler, none, filler, t, t⟩).map (·.2)
  | .entities =>
    (db.insertEntity none fun id => ⟨id, parent, filler, filler, filler, t, t⟩).map (·.2)
  | .trackers =>
    (db.insertTracker none fun id =>
      ⟨id, parent, filler, 0, filler, false, none, none, t⟩).map (·.2)
  | .failures =>
    (db.insertFailure fun id =>
      ⟨id, parent, filler, filler, filler, filler, filler, t⟩).map (·.2)
  | .batches => (db.insertBatch fun id => ⟨id, parent, number, filler, t, t⟩).map (·.2)
  | .leases =>
    (db.insertLease fun id => ⟨id, "k" ++ toString number, filler, t, t⟩).map (·.2)

/-- The error of a write to a table that there never is. -/
def unknownTable (table : String) : Error :=
  .execution ("error returned from database: (code: 1) no such table: " ++ table)

/-- Makes a step. -/
def step (db : Database) : Step → Except Error Database
  | .up n => .ok (db.up n)
  | .down n => .ok (db.down n)
  | .reset => .ok db.reset
  | .insert table parent number =>
    match TableName.ofText? table with
    | some t => insertMinimal db t parent number
    | none => .error (unknownTable table)
  | .delete table id =>
    match TableName.ofText? table with
    | some t => (db.deleteRow t id).map (·.2)
    | none => .error (unknownTable table)

/-- What there is after a step. -/
structure Observation where
  result : Except Error Unit
  database : Database

/-- Makes the steps one after another; a refused one changes nothing. -/
def run : List Step → Database → List Observation
  | [], _ => []
  | s :: rest, db =>
    match step db s with
    | .ok db' => ⟨.ok (), db'⟩ :: run rest db'
    | .error e => ⟨.error e, db⟩ :: run rest db

end ImportTracking.Database.Upkeep
