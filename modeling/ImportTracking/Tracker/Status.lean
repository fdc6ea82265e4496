import ImportTracking.Json.Decoder

/-!
# Tracker — statuses and events

The life of a tracker.  It is created, enqueued, started, and ends finished, failed or skipped.
`Status.apply` says to which status an event leads, or that it is not allowed.

Main statements: `apply_of_isTerminal` (out of a terminal status leads only a failure) and
`ofName?_name` (a status is known by its name).
-/

namespace ImportTracking.Tracker

/-- Where a tracker stands. -/
inductive Status where
  | created
  | enqueued
  | started
  | finished
  | failed
  | skipped
deriving DecidableEq, Repr, Inhabited

/-- What can happen to a tracker. -/
inductive Event where
  | enqueue
  | start
  | retry
  | finish
  | skip
  | fail
deriving DecidableEq, Repr, Inhabited

namespace Status

/-- The statuses in the order of a tracker's life. -/
def all : List Status := [.created, .enqueued, .started, .finished, .failed, .skipped]

/-- The name under which a status is stored. -/
def name : Status → String
  | .created => "created"
  | .enqueued => "enqueued"
  | .started => "started"
  | .finished => "finished"
  | .failed => "failed"
  | .skipped => "skipped"

/-- The name of a status as a variant. -/
def variantName : Status → String
  | .created => "Created"
  | .enqueued => "Enqueued"
  | .started => "Started"
  | .finished => "Finished"
  | .failed => "Failed"
  | .skipped => "Skipped"

/-- The status of a name. -/
def ofName? (s : String) : Option Status := all.find? fun t => t.name == s

/-- A tracker in a terminal status never runs again. -/
def isTerminal : Status → Bool
  | .finished | .failed | .skipped => true
  | .created | .enqueued | .started => false

/-- Whether a tracker in this status may be run. -/
def isRunnable : Status → Bool
  | .enqueued | .started => true
  | .created | .finished | .failed | .skipped => false

/-- The status an event leads to, if it is allowed.  Starting a started tracker, skipping a
skipped one and finishing one that has ended change nothing; a failure is recorded from any
status. -/
def apply : Status → Event → Option Status
  | .created, .enqueue => some .enqueued
  | .enqueued, .start => some .started
  | .started, .start => some .started
  | .started, .retry => some .enqueued
  | .enqueued, .retry => some .enqueued
  | .started, .finish => some .finished
  | .finished, .finish => some .finished
  | .failed, .finish => some .failed
  | .skipped, .finish => some .skipped
  | .created, .skip => some .skipped
  | .enqueued, .skip => some .skipped
  | .started, .skip => some .skipped
  | .skipped, .skip => some .skipped
  | _, .fail => some .failed
  | _, _ => none

/-- Reads a status from its variant name. -/
def decoder : Json.Decoder Status := .oneOf (all.map fun s => (s.variantName, s))

theorem ofName?_name (s : Status) : ofName? s.name = some s := by
  cases s <;> decide

/-- Out of a terminal status leads only a failure. -/
theorem apply_of_isTerminal {s next : Status} {e : Event} (hs : s.isTerminal = true)
    (hn : s.apply e = some next) : next = s ∨ next = .failed ∧ e = .fail := by
  cases s <;> cases e <;> simp_all [isTerminal, apply]

/-- A tracker may fail from every status. -/
theorem apply_fail (s : Status) : s.apply .fail = some .failed := by
  cases s <;> rfl

end Status

namespace Event

/-- Every event. -/
def all : List Event := [.enqueue, .start, .retry, .finish, .skip, .fail]

/-- The name of an event. -/
def name : Event → String
  | .enqueue => "enqueue"
  | .start => "start"
  | .retry => "retry"
  | .finish => "finish"
  | .skip => "skip"
  | .fail => "fail_op"

/-- The name of an event as a variant. -/
def variantName : Event → String
  | .enqueue => "Enqueue"
  | .start => "Start"
  | .retry => "Retry"
  | .finish => "Finish"
  | .skip => "Skip"
  | .fail => "FailOp"

/-- The event of a name. -/
def ofName? (s : String) : Option Event := all.find? fun e => e.name == s

/-- Reads an event from its variant name. -/
def decoder : Json.Decoder Event := .oneOf (all.map fun e => (e.variantName, e))

end Event

end ImportTracking.Tracker
