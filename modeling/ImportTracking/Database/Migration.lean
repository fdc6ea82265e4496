import ImportTracking.Database.Basic

/-!
# Database — migrations

The schema comes about in steps.  A migration creates tables, and rolling it back drops them
again, children before parents.  A database remembers how many migrations have been applied;
they are applied in order and rolled back in reverse.

Main statements: `applied_apply` and `applied_rollBack` (how many are applied afterwards).
-/

namespace ImportTracking.Database

/-- A step in the making of the schema. -/
structure Migration where
  name : String
  /-- The tables it creates, parents before children. -/
  creates : List TableName
deriving DecidableEq, Repr

namespace Migration

/-- All migrations, in order. -/
def all : List Migration :=
  [⟨"m20260301_000001_create_bulk_import_tables", [.imports, .entities, .trackers, .failures]⟩,
    ⟨"m20260301_000002_create_pipeline_batches", [.batches]⟩,
    ⟨"m20260302_000003_create_pipeline_leases", [.leases]⟩]

/-- Creates the tables of a migration. -/
def apply (m : Migration) (db : Database) : Database :=
  let db := m.creates.foldl createTable db
  { db with applied := db.applied + 1 }

/-- Drops the tables of a migration. -/
def rollBack (m : Migration) (db : Database) : Database :=
  let db := m.creates.reverse.foldl dropTable db
  { db with applied := db.applied - 1 }

end Migration

/-- The migrations that have been applied. -/
def appliedMigrations (db : Database) : List Migration := Migration.all.take db.applied

/-- The migrations still to be applied. -/
def pendingMigrations (db : Database) : List Migration := Migration.all.drop db.applied

/-- Applies the next migrations: `n` of them, or all. -/
def up (db : Database) (n : Option Nat) : Database :=
  let pending := db.pendingMigrations
  (pending.take (n.getD pending.length)).foldl (fun db m => m.apply db) db

/-- Rolls the latest migrations back: `n` of them, or all. -/
def down (db : Database) (n : Option Nat) : Database :=
  let latest := db.appliedMigrations.reverse
  (latest.take (n.getD latest.length)).foldl (fun db m => m.rollBack db) db

/-- Rolls everything back and applies it again. -/
def reset (db : Database) : Database := (db.down none).up none

/-- A database without tables. -/
def blank : Database := {}

/-- A database with all tables, without rows. -/
def fresh : Database := blank.up none

@[simp] theorem applied_createTable (db : Database) (t : TableName) :
    (db.createTable t).applied = db.applied := by
  cases t <;> rfl

@[simp] theorem applied_dropTable (db : Database) (t : TableName) :
    (db.dropTable t).applied = db.applied := by
  cases t <;> rfl

theorem applied_apply (m : Migration) (db : Database) : (m.apply db).applied = db.applied + 1 := by
  have h : ∀ (ts : List TableName) (db : Database),
      (ts.foldl createTable db).applied = db.applied := by
    intro ts
    induction ts with
    | nil => intro db; rfl
    | cons t ts ih => intro db; simp [ih]
  simp [Migration.apply, h]

theorem applied_rollBack (m : Migration) (db : Database) :
    (m.rollBack db).applied = db.applied - 1 := by
  have h : ∀ (ts : List TableName) (db : Database),
      (ts.foldl dropTable db).applied = db.applied := by
    intro ts
    induction ts with
    | nil => intro db; rfl
    | cons t ts ih => intro db; simp [ih]
  simp only [Migration.rollBack, h]

end ImportTracking.Database
