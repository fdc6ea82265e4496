import ImportTracking.Json.Decoder
import ImportTracking.Json.Printer

/-!
# Export — what the source instance says

The source instance reports on the export of an entity: nothing yet, one status, or one status
for each relation; of several for one relation the first counts.  `Payload.ofJson` reads such a
report, `Payload.toJson` writes it.
-/

namespace ImportTracking.Export

/-- Where the export of a relation stands. -/
inductive State where
  | started
  | finished
  | failed
deriving DecidableEq, Repr, Inhabited

namespace State

def all : List State := [.started, .finished, .failed]

/-- The name of a state. -/
def name : State → String
  | .started => "started"
  | .finished => "finished"
  | .failed => "failed"

/-- Reads a state from its name. -/
def decoder : Json.Decoder State := .oneOf (all.map fun s => (s.name, s))

end State

/-- The status of the export of one relation. -/
structure RelationStatus where
  relation : Option String := none
  state : Option State := none
  error : Option String := none
  batched : Bool := false
  batchCount : Int := 0
deriving DecidableEq, Repr, Inhabited

namespace RelationStatus

/-- The fields of a status, all of which may be left out. -/
def fields : Json.Fields RelationStatus :=
  RelationStatus.mk <$> .withDefault "relation" (Json.Decoder.orNull .string) none
    <*> .withDefault "status" (Json.Decoder.orNull State.decoder) none
    <*> .withDefault "error" (Json.Decoder.orNull .string) none
    <*> .withDefault "batched" .bool false
    <*> .withDefault "batches_count" .int64 0

/-- Reads a status. -/
def decoder : Json.Decoder RelationStatus := .record "RelationExportStatus" fields

/-- A status as JSON. -/
def toJson (s : RelationStatus) : Json :=
  .ofMembers
    [("relation", .ofText? s.relation), ("status", .ofText? (s.state.map State.name)),
      ("error", .ofText? s.error), ("batched", .bool s.batched),
      ("batches_count", .int s.batchCount)]

end RelationStatus

/-- A report on an export. -/
inductive Payload where
  | empty
  | single (status : RelationStatus)
  | perRelation (statuses : List RelationStatus)
deriving DecidableEq, Repr, Inhabited

namespace Payload

/-- Reads a report; the error says what is wrong with it. -/
def ofJson : Json → Except String Payload
  | .null => .ok .empty
  | .arr items =>
    match Json.Decoder.items RelationStatus.decoder items with
    | .ok statuses => .ok (.perRelation statuses)
    | .error e => .error e.message
  | .obj ms =>
    match RelationStatus.decoder (.obj ms) with
    | .ok status => .ok (.single status)
    | .error e => .error e.message
  | j => .error ("Unexpected export status payload: " ++ j.compact)

/-- A report as JSON. -/
def toJson : Payload → Json
  | .empty => .null
  | .single status => status.toJson
  | .perRelation statuses => .arr (statuses.map RelationStatus.toJson)

/-- The status that a report has for a relation. -/
def select (relation : String) : Payload → Option RelationStatus
  | .empty => none
  | .single status => some status
  | .perRelation statuses => statuses.find? fun s => s.relation == some relation

end Payload

end ImportTracking.Export
