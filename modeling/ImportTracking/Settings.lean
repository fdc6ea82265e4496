import ImportTracking.Duration
import ImportTracking.Text.Pieces
import ImportTracking.Word

/-!
# Settings — how the coordinator is set up

The settings of the coordinator, their defaults, and the environment variables that override
them one by one.  A variable that is unset, is no valid text, or does not denote a value of its
setting leaves the default.
-/

namespace ImportTracking

/-- How the coordinator is set up. -/
structure Settings where
  /-- How long a job waits before it polls an export again. -/
  reEnqueueDelay : Duration := .ofSecs 10
  /-- How long a job waits when its destination is under load. -/
  deferralDelay : Duration := .ofSecs 300
  /-- How long a tracker may wait on an empty export. -/
  emptyExportTimeout : Duration := .ofSecs 300
  /-- How long the lease of a tracker is valid. -/
  leaseTimeout : Duration := .ofSecs 30
  /-- What the keys of leases begin with. -/
  leaseKeyPrefix : String := "bulk_imports:pipeline_worker"
  /-- How often a job is retried. -/
  maxRetries : Nat := 3
  /-- Whether the load of destinations is asked for at all. -/
  deferralEnabled : Bool := true
  /-- The schema asked about for a pipeline without a known destination. -/
  defaultSchema : String := "main"
  /-- The tables asked about for a pipeline without a known destination. -/
  defaultTables : List String := []
deriving DecidableEq, Repr, Inhabited

/-- The environment: the bytes of each variable that is set. -/
abbrev Environment := String → Option (List UInt8)

namespace Environment

/-- The text of a variable that is set to valid UTF-8. -/
def text? (env : Environment) (name : String) : Option String :=
  (env name).bind fun bytes => String.fromUTF8? ⟨bytes.toArray⟩

/-- The number a variable denotes, blanks around it allowed. -/
def natural? (env : Environment) (limit : Nat) (name : String) : Option Nat :=
  (env.text? name).bind fun s => Text.natural? limit (Text.trim s.toList)

/-- The duration a variable denotes, in seconds. -/
def seconds? (env : Environment) (name : String) : Option Duration :=
  (env.natural? Duration.maxSecs name).map .ofSecs

/-- Whether a variable that is set says yes. -/
def flag? (env : Environment) (name : String) : Option Bool :=
  (env.text? name).map fun s =>
    let word := String.ofList (Text.trim s.toList)
    word == "1" || word == "true" || word == "yes"

/-- The items a variable lists. -/
def list? (env : Environment) (name : String) : Option (List String) :=
  (env.text? name).map fun s => (Text.commaList s.toList).map String.ofList

end Environment

namespace Settings

/-- The largest number of retries. -/
def maxCount : Nat := Word.max32

/-- The settings an environment asks for. -/
def ofEnvironment (env : Environment) : Settings :=
  let d : Settings := {}
  { reEnqueueDelay := (env.seconds? "BULK_IMPORT_RE_ENQUEUE_DELAY_SECS").getD d.reEnqueueDelay
    deferralDelay := (env.seconds? "BULK_IMPORT_DEFER_ON_HEALTH_DELAY_SECS").getD d.deferralDelay
    emptyExportTimeout :=
      (env.seconds? "BULK_IMPORT_EMPTY_EXPORT_TIMEOUT_SECS").getD d.emptyExportTimeout
    leaseTimeout := (env.seconds? "BULK_IMPORT_LEASE_TIMEOUT_SECS").getD d.leaseTimeout
    leaseKeyPrefix := (env.text? "BULK_IMPORT_LEASE_KEY_PREFIX").getD d.leaseKeyPrefix
    maxRetries := (env.natural? maxCount "BULK_IMPORT_MAX_RUNTIME_RETRIES").getD d.maxRetries
    deferralEnabled := (env.flag? "BULK_IMPORT_DEFER_ON_HEALTH").getD d.deferralEnabled
    defaultSchema := (env.text? "BULK_IMPORT_HEALTH_SCHEMA").getD d.defaultSchema
    defaultTables := (env.list? "BULK_IMPORT_HEALTH_TABLES").getD d.defaultTables }

/-- The key of the lease on a tracker. -/
def leaseKey (s : Settings) (trackerId : Int) : String :=
  s.leaseKeyPrefix ++ ":" ++ toString trackerId

end Settings

end ImportTracking
