import ImportTracking.Tracker.Basic
import ImportTracking.Entity

/-!
# Attributes — what is said about an invocation

The attributes that accompany everything reported about one invocation of a tracker.
-/

namespace ImportTracking

/-- What an invocation is about. -/
structure Attributes where
  entityId : Int
  importId : Int
  entityType : String
  sourceFullPath : String
  trackerId : Int
  pipelineName : String
  /-- The name of the tracker's status. -/
  trackerStatus : String
  sourceVersion : Option String
deriving DecidableEq, Repr, Inhabited

namespace Attributes

/-- The attributes of an invocation for a tracker of an entity. -/
def of (e : Entity) (t : Tracker) (sourceVersion : Option String) : Attributes :=
  { entityId := e.id
    importId := e.importId
    entityType := e.sourceType
    sourceFullPath := e.sourceFullPath
    trackerId := t.id
    pipelineName := t.pipelineName
    trackerStatus := t.status
    sourceVersion := sourceVersion }

/-- The attributes with the status that a tracker has now. -/
def withStatus (a : Attributes) (t : Tracker) : Attributes := { a with trackerStatus := t.status }

/-- The importer that the attributes name. -/
def importer : String := "bulk_import"

/-- The attributes as JSON. -/
def toJson (a : Attributes) : Json :=
  .ofMembers
    [("bulk_import_entity_id", .int a.entityId), ("bulk_import_id", .int a.importId),
      ("bulk_import_entity_type", .str a.entityType), ("source_full_path", .str a.sourceFullPath),
      ("pipeline_tracker_id", .int a.trackerId), ("pipeline_class", .str a.pipelineName),
      ("pipeline_tracker_state", .str a.trackerStatus),
      ("source_version", .ofText? a.sourceVersion), ("importer", .str importer)]

end Attributes

end ImportTracking
