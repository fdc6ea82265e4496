import ImportTracking.Duration
import ImportTracking.Tracker.Basic
import ImportTracking.Entity

/-!
# Pipeline — what trackers run

A pipeline imports one relation of an entity.  A `Registry` holds the pipelines that are known,
by name; a tracker names its pipeline.
-/

namespace ImportTracking

/-- A pipeline. -/
structure Pipeline where
  name : String
  /-- The relation it imports. -/
  relation : String
  /-- Whether it takes its data from an export. -/
  fileExtraction : Bool
deriving DecidableEq, Repr, Inhabited

namespace Pipeline

/-- What a pipeline is run with. -/
structure Context where
  tracker : Tracker
  entity : Entity
  jid : String
deriving DecidableEq, Repr

/-- How a run of a pipeline ended. -/
inductive Outcome where
  | ok
  /-- It wants to be run again after a time. -/
  | retry (delay : Duration) (reason : String)
  /-- It gave up. -/
  | fatal (errorClass message : String)
deriving DecidableEq, Repr, Inhabited

/-- The pipelines that are known, each name once. -/
structure Registry where
  pipelines : List Pipeline := []
deriving Repr, Inhabited

namespace Registry

/-- The pipeline of a name. -/
def find? (r : Registry) (name : String) : Option Pipeline :=
  r.pipelines.find? fun p => p.name == name

/-- Registers a pipeline, in place of one of the same name. -/
def register (r : Registry) (p : Pipeline) : Registry :=
  ⟨p :: r.pipelines.filter fun q => q.name != p.name⟩

end Registry

end Pipeline

end ImportTracking
