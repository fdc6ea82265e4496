import ImportTracking.Database.Migration

/-!
# Database — documents

A database as one JSON document, so that it can be kept between runs: how many migrations have
been applied, and for every table that exists its rows and the largest id ever used.
-/

namespace ImportTracking.Database

namespace Table

variable {Row : Type} [HasId Row]

/-- A table with these rows, brought into order. -/
def ofRows (rows : List Row) (lastId : Nat) : Table Row := rows.foldl insert ⟨[], lastId⟩

/-- Reads the rows of a table. -/
def rowsDecoder (row : Json.Decoder Row) : Json.Decoder (List Row)
  | .arr items => Json.Decoder.items row items
  | j => Json.Decoder.refuse "a sequence" j

/-- Reads a table. -/
def decoder (row : Json.Decoder Row) : Json.Decoder (Table Row) :=
  .record "Table"
    (ofRows <$> .required "rows" (rowsDecoder row) <*> .required "last_id" .nat32)

omit [HasId Row] in
/-- A table as JSON. -/
def toJson (row : Row → Json) (t : Table Row) : Json :=
  .ofMembers [("rows", .arr (t.rows.map row)), ("last_id", .nat t.lastId)]

end Table

/-- A table, which may not exist. -/
def tableField {Row : Type} [HasId Row] (name : TableName) (row : Json.Decoder Row) :
    Json.Fields (Option (Table Row)) :=
  .optional name.text (Table.decoder row)

/-- The parts of a document. -/
def fields : Json.Fields Database :=
  Database.mk <$> tableField .imports Import.decoder <*> tableField .entities Entity.decoder
    <*> tableField .trackers Tracker.decoder <*> tableField .failures Failure.decoder
    <*> tableField .batches Batch.decoder <*> tableField .leases Lease.Row.decoder
    <*> .required "applied" .nat32

/-- Reads a document. -/
def decoder : Json.Decoder Database := .record "Database" fields

/-- A table as a member of a document. -/
def tableMember {Row : Type} (name : TableName) (row : Row → Json) (t : Option (Table Row)) :
    String × Json :=
  (name.text, (t.map (Table.toJson row)).getD .null)

/-- A database as a document. -/
def toJson (db : Database) : Json :=
  .ofMembers
    [tableMember .imports Import.toJson db.imports,
      tableMember .entities Entity.toJson db.entities,
      tableMember .trackers Tracker.toJson db.trackers,
      tableMember .failures Failure.toJson db.failures,
      tableMember .batches Batch.toJson db.batches,
      tableMember .leases Lease.Row.toJson db.leases, ("applied", .nat db.applied)]

end ImportTracking.Database
