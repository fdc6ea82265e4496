import ImportTracking.Database.Catalog
import ImportTracking.Database.Migration

/-!
# Database — revisions

The scripts of the migrations: the statements that a migration makes, and those that undo it.  The
two are written apart from each other, and nothing here says that they fit.
-/

namespace ImportTracking.Database

/-- A statement that changes the make-up of a database. -/
inductive Change where
  /-- Creates a table, unless it exists. -/
  | createTable (d : TableDefinition)
  | createIndex (i : IndexDefinition)
  | dropTable (t : TableName)
deriving DecidableEq, Repr

/-- A migration with its scripts. -/
structure Revision where
  name : String
  up : List Change
  down : List Change
deriving DecidableEq, Repr

namespace Revision

/-! ### Columns -/

def idColumn : ColumnDefinition := { name := "id", type := .integer, primaryKey := true }

/-- The column of a foreign key. -/
def keyColumn (name : String) : ColumnDefinition := { name, type := .integer }

def textColumn (name : String) : ColumnDefinition := { name, type := .string none }

def statusColumn : ColumnDefinition :=
  { name := "status", type := .string (some 32), default := some (.text "created") }

/-- The column of a time that is the time of the insert, if no other is given. -/
def timeColumn (name : String) : ColumnDefinition :=
  { name, type := .timestamp, default := some .now }

/-! ### Tables -/

def imports : TableDefinition where
  table := .imports
  columns :=
    [idColumn, textColumn "source_url", { textColumn "source_version" with required := false },
      statusColumn, timeColumn "created_at", timeColumn "updated_at"]

def entities : TableDefinition where
  table := .entities
  columns :=
    [idColumn, keyColumn "bulk_import_id", { name := "source_type", type := .string (some 32) },
      textColumn "source_full_path", statusColumn, timeColumn "created_at",
      timeColumn "updated_at"]
  foreignKeys := [⟨"fk_bulk_import_entities_bulk_import", "bulk_import_id", .imports⟩]

def trackers : TableDefinition where
  table := .trackers
  columns :=
    [idColumn, keyColumn "entity_id", textColumn "pipeline_name",
      { name := "stage", type := .integer, default := some (.number 0) }, statusColumn,
      { name := "batched", type := .boolean, default := some (.boolean false) },
      { textColumn "jid" with required := false },
      { name := "created_at", type := .timestamp, required := false }, timeColumn "updated_at"]
  foreignKeys := [⟨"fk_pipeline_trackers_entity", "entity_id", .entities⟩]

def failures : TableDefinition where
  table := .failures
  columns :=
    [idColumn, keyColumn "entity_id", textColumn "pipeline_class", textColumn "pipeline_step",
      textColumn "exception_class", { name := "exception_message", type := .text },
      textColumn "correlation_id_value", timeColumn "created_at"]
  foreignKeys := [⟨"fk_import_failures_entity", "entity_id", .entities⟩]

def batches : TableDefinition where
  table := .batches
  columns :=
    [idColumn, keyColumn "tracker_id", { name := "batch_number", type := .integer }, statusColumn,
      timeColumn "created_at", timeColumn "updated_at"]
  foreignKeys := [⟨"fk_pipeline_batches_tracker", "tracker_id", .trackers⟩]

def leases : TableDefinition where
  table := .leases
  columns :=
    [idColumn, { name := "lease_key", type := .string (some 255), unique := true },
      { name := "token", type := .string (some 64) }, { name := "expires_at", type := .timestamp },
      timeColumn "created_at"]

/-! ### Scripts -/

def bulkImportTables : Revision where
  name := "m20260301_000001_create_bulk_import_tables"
  up :=
    [.createTable imports, .createTable entities, .createTable trackers,
      .createIndex ⟨"idx_pipeline_trackers_entity_stage", .trackers, ["entity_id", "stage"], false⟩,
      .createTable failures]
  down := [.dropTable .failures, .dropTable .trackers, .dropTable .entities, .dropTable .imports]

/-- One row for each number keeps a fan-out that is repeated from making batches twice. -/
def pipelineBatches : Revision where
  name := "m20260301_000002_create_pipeline_batches"
  up :=
    [.createTable batches,
      .createIndex ⟨"idx_pipeline_batches_tracker_number", .batches,
        ["tracker_id", "batch_number"], true⟩]
  down := [.dropTable .batches]

def pipelineLeases : Revision where
  name := "m20260302_000003_create_pipeline_leases"
  up := [.createTable leases]
  down := [.dropTable .leases]

/-- All revisions, in order. -/
def all : List Revision := [bulkImportTables, pipelineBatches, pipelineLeases]

/-- The table that a statement creates. -/
def created? : Change → Option TableName
  | .createTable d => some d.table
  | _ => none

/-- The migration that a revision spells out. -/
def migration (r : Revision) : Migration := ⟨r.name, r.up.filterMap created?⟩

/-- The revisions are those of the migrations. -/
theorem all_eq : all.map migration = Migration.all := rfl

end Revision

end ImportTracking.Database
