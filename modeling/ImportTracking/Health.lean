import ImportTracking.Settings
import ImportTracking.Work

/-!
# Health — admission

Before a tracker is worked on, the place its pipeline writes to is asked about.  A place under
load puts the whole invocation off.  The place of a pipeline is looked up by its name and by
what the entity is; without one the defaults of the settings are asked about.  When the question
cannot be answered, the invocation goes on.

Main statement: `admission_disabled` (without the check nothing is asked).
-/

namespace ImportTracking.Health

/-- Where a pipeline writes for one kind of entity. -/
structure Destination where
  pipeline : String
  portable : Entity.Portable
  schema : String
  table : String
deriving DecidableEq, Repr

/-- What is asked about. -/
structure Target where
  schema : String
  tables : List String
deriving DecidableEq, Repr

/-- The verdict on an invocation. -/
inductive Admission where
  | proceed
  | defer (delay : Duration) (target : Target)
deriving DecidableEq, Repr

/-- The destination of a pipeline; of several the last one counts. -/
def resolve (ds : List Destination) (pipeline : String) (portable : Entity.Portable) :
    Option Destination :=
  ds.reverse.find? fun d => d.pipeline == pipeline && d.portable == portable

/-- What is asked about for a tracker of an entity. -/
def target (s : Settings) (ds : List Destination) (t : Tracker) (e : Entity) : Target :=
  match resolve ds t.pipelineName e.portable with
  | some d => ⟨d.schema, [d.table]⟩
  | none => ⟨s.defaultSchema, s.defaultTables⟩

/-- Whether a tracker of an entity may be worked on now. -/
def admission (s : Settings) (ds : List Destination) (t : Tracker) (e : Entity) :
    Program Work Admission := do
  if s.deferralEnabled then
    let goal := target s ds t e
    match ← Work.request (.isUnderLoad goal.schema goal.tables) with
    | .ok true => return .defer s.deferralDelay goal
    | .ok false => return .proceed
    | .error _ => return .proceed
  else return .proceed

theorem admission_disabled {s : Settings} (h : s.deferralEnabled = false)
    (ds : List Destination) (t : Tracker) (e : Entity) : admission s ds t e = .done .proceed := by
  simp [admission, h]
  rfl

end ImportTracking.Health
