/-!
# Database — schema

The six tables, with their columns, their indexes beside the primary key, and their foreign
keys.  Deleting a row deletes the rows that name it by a foreign key.
-/

namespace ImportTracking.Database

/-- The tables. -/
inductive TableName where
  | imports
  | entities
  | trackers
  | failures
  | batches
  | leases
deriving DecidableEq, Repr, Inhabited

/-- A column. -/
structure Column where
  name : String
  required : Bool := true
  primaryKey : Bool := false
deriving DecidableEq, Repr

/-- An index over columns. -/
structure Index where
  columns : List String
  unique : Bool
deriving DecidableEq, Repr

/-- A column that names a row of another table. -/
structure ForeignKey where
  column : String
  parent : TableName
deriving DecidableEq, Repr

/-- The make-up of a table. -/
structure Schema where
  columns : List Column
  indexes : List Index
  foreignKeys : List ForeignKey
deriving DecidableEq, Repr

namespace TableName

def all : List TableName := [.imports, .entities, .trackers, .failures, .batches, .leases]

/-- The name of a table in statements. -/
def text : TableName → String
  | .imports => "bulk_imports"
  | .entities => "bulk_import_entities"
  | .trackers => "pipeline_trackers"
  | .failures => "import_failures"
  | .batches => "pipeline_batches"
  | .leases => "pipeline_leases"

/-- The table of a name. -/
def ofText? (s : String) : Option TableName := all.find? fun t => t.text == s

/-- The id column every table begins with. -/
def idColumn : Column := { name := "id", primaryKey := true }

/-- The make-up of each table. -/
def schema : TableName → Schema
  | .imports =>
    { columns :=
        [idColumn, { name := "source_url" }, { name := "source_version", required := false },
          { name := "status" }, { name := "created_at" }, { name := "updated_at" }]
      indexes := []
      foreignKeys := [] }
  | .entities =>
    { columns :=
        [idColumn, { name := "bulk_import_id" }, { name := "source_type" },
          { name := "source_full_path" }, { name := "status" }, { name := "created_at" },
          { name := "updated_at" }]
      indexes := []
      foreignKeys := [⟨"bulk_import_id", .imports⟩] }
  | .trackers =>
    { columns :=
        [idColumn, { name := "entity_id" }, { name := "pipeline_name" }, { name := "stage" },
          { name := "status" }, { name := "batched" }, { name := "jid", required := false },
          { name := "created_at", required := false }, { name := "updated_at" }]
      indexes := [⟨["entity_id", "stage"], false⟩]
      foreignKeys := [⟨"entity_id", .entities⟩] }
  | .failures =>
    { columns :=
        [idColumn, { name := "entity_id" }, { name := "pipeline_class" },
          { name := "pipeline_step" }, { name := "exception_class" },
          { name := "exception_message" }, { name := "correlation_id_value" },
          { name := "created_at" }]
      indexes := []
      foreignKeys := [⟨"entity_id", .entities⟩] }
  | .batches =>
    { columns :=
        [idColumn, { name := "tracker_id" }, { name := "batch_number" }, { name := "status" },
          { name := "created_at" }, { name := "updated_at" }]
      indexes := [⟨["tracker_id", "batch_number"], true⟩]
      foreignKeys := [⟨"tracker_id", .trackers⟩] }
  | .leases =>
    { columns :=
        [idColumn, { name := "lease_key" }, { name := "token" }, { name := "expires_at" },
          { name := "created_at" }]
      indexes := [⟨["lease_key"], true⟩]
      foreignKeys := [] }

end TableName

end ImportTracking.Database
