import ImportTracking.Timestamp.Json

/-!
# Entity — what is imported

An `Import` is a run that brings things over from a source instance; an `Entity` is one group or
project of it.  An entity that failed is not worked on any more.
-/

namespace ImportTracking

/-- The row of an import. -/
structure Import where
  id : Int
  sourceUrl : String
  sourceVersion : Option String
  status : String
  createdAt : Timestamp
  updatedAt : Timestamp
deriving DecidableEq, Repr, Inhabited

/-- The row of an entity. -/
structure Entity where
  id : Int
  importId : Int
  sourceType : String
  sourceFullPath : String
  /-- The name of the status. -/
  status : String
  createdAt : Timestamp
  updatedAt : Timestamp
deriving DecidableEq, Repr, Inhabited

namespace Import

/-- The fields of an import's row. -/
def fields : Json.Fields Import :=
  Import.mk <$> .required "id" .int32 <*> .required "source_url" .string
    <*> .optional "source_version" .string <*> .required "status" .string
    <*> .required "created_at" Timestamp.decoder <*> .required "updated_at" Timestamp.decoder

/-- Reads an import's row. -/
def decoder : Json.Decoder Import := .record "Model" fields

/-- An import's row as JSON. -/
def toJson (i : Import) : Json :=
  .ofMembers
    [("id", .int i.id), ("source_url", .str i.sourceUrl),
      ("source_version", .ofText? i.sourceVersion), ("status", .str i.status),
      ("created_at", i.createdAt.toJson), ("updated_at", i.updatedAt.toJson)]

end Import

namespace Entity

/-- Where an entity stands. -/
inductive Status where
  | created
  | started
  | finished
  | failed
  | timeout
deriving DecidableEq, Repr, Inhabited

namespace Status

def all : List Status := [.created, .started, .finished, .failed, .timeout]

/-- The name under which a status is stored. -/
def name : Status → String
  | .created => "created"
  | .started => "started"
  | .finished => "finished"
  | .failed => "failed"
  | .timeout => "timeout"

/-- The name of a status as a variant. -/
def variantName : Status → String
  | .created => "Created"
  | .started => "Started"
  | .finished => "Finished"
  | .failed => "Failed"
  | .timeout => "Timeout"

/-- The status of a name. -/
def ofName? (s : String) : Option Status := all.find? fun t => t.name == s

/-- Reads a status from its variant name. -/
def decoder : Json.Decoder Status := .oneOf (all.map fun s => (s.variantName, s))

end Status

/-- The kinds of things an entity can be at its destination. -/
inductive Portable where
  | group
  | project
deriving DecidableEq, Repr, Inhabited

namespace Portable

def all : List Portable := [.group, .project]

def name : Portable → String
  | .group => "group"
  | .project => "project"

/-- The name of a kind as a variant. -/
def variantName : Portable → String
  | .group => "Group"
  | .project => "Project"

/-- Reads a kind from its variant name. -/
def decoder : Json.Decoder Portable := .oneOf (all.map fun p => (p.variantName, p))

end Portable

/-- Whether the entity failed. -/
def isFailed (e : Entity) : Bool := e.status == Status.failed.name

/-- The source type of a project. -/
def projectType : String := "project_entity"

/-- What the entity is at its destination: a group, unless its source type says project. -/
def portable (e : Entity) : Portable := if e.sourceType = projectType then .project else .group

/-- The fields of an entity's row. -/
def fields : Json.Fields Entity :=
  Entity.mk <$> .required "id" .int32 <*> .required "bulk_import_id" .int32
    <*> .required "source_type" .string <*> .required "source_full_path" .string
    <*> .required "status" .string <*> .required "created_at" Timestamp.decoder
    <*> .required "updated_at" Timestamp.decoder

/-- Reads an entity's row. -/
def decoder : Json.Decoder Entity := .record "Model" fields

/-- An entity's row as JSON. -/
def toJson (e : Entity) : Json :=
  .ofMembers
    [("id", .int e.id), ("bulk_import_id", .int e.importId), ("source_type", .str e.sourceType),
      ("source_full_path", .str e.sourceFullPath), ("status", .str e.status),
      ("created_at", e.createdAt.toJson), ("updated_at", e.updatedAt.toJson)]

end Entity

end ImportTracking
