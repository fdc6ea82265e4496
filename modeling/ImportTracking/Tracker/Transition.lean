import ImportTracking.Session

/-!
# Tracker — transitions

A transition applies an event to a tracker as its caller last saw it.  The row is written only
if its status is still the one seen.  When it is not, the transition succeeds if the row has
reached the status the event leads to, and is refused otherwise, so that no writer undoes what
another one did.

Main statement: `transition_of_not_allowed` (an event that is not allowed reaches no database).
-/

namespace ImportTracking.Tracker

/-- An event, and what is recorded with it. -/
structure Transition where
  event : Event
  /-- The job that applies the event, if it is to be recorded. -/
  jid : Option String := none
  /-- Whether the tracker is batched, if that is to be recorded. -/
  batched : Option Bool := none
deriving DecidableEq, Repr

/-- The status of a row; one of an unknown name cannot be worked with. -/
def statusOf (t : Tracker) : Except Fault Status :=
  match t.known? with
  | some s => .ok s
  | none => .error (.invalidTransition t.status "read")

/-- The status an event leads to. -/
def nextStatus (s : Status) (e : Event) : Except Fault Status :=
  match s.apply e with
  | some next => .ok next
  | none => .error (.invalidTransition s.name e.name)

/-- Moves a tracker that was last seen in status `current` on to `next`. -/
def move (seen : Tracker) (t : Transition) (current next : Status) : Session.Task Tracker := do
  let now ← (Session.now : Program Session Timestamp)
  let affected ← Session.query (.updateTracker seen.id current.name
    { status := next.name, updatedAt := now, jid := t.jid, batched := t.batched })
  let updated ← Session.findTracker seen.id
  if affected = 0 then
    match updated.statusOf with
    | .error f => throw f
    | .ok observed =>
      if observed = next then return updated
      else throw (.invalidTransition observed.name t.event.name)
  else return updated

/-- Applies an event to a tracker as it was last seen; gives the row as it is then. -/
def transition (seen : Tracker) (t : Transition) : Session.Task Tracker :=
  match seen.statusOf with
  | .error f => throw f
  | .ok current =>
    match nextStatus current t.event with
    | .error f => throw f
    | .ok next => move seen t current next

/-- An event that is not allowed reaches no database. -/
theorem transition_of_not_allowed {seen : Tracker} {t : Transition} {s : Status}
    (hs : seen.known? = some s) (h : s.apply t.event = none) :
    (transition seen t).run = .done (.error (.invalidTransition s.name t.event.name)) := by
  simp only [transition, statusOf, hs, nextStatus, h]
  rfl

end ImportTracking.Tracker
