import ImportTracking.Tracker.Status

/-!
# Tracker — histories

A status carried through a sequence of events that are given by their names.  An event that is not
allowed leaves the status as it is, and so does a name of no event.
-/

namespace ImportTracking.Tracker.Status

/-- What came of an event that is given by its name. -/
inductive Reaction where
  | moved (status : Status)
  | notAllowed
  | unknownEvent
deriving DecidableEq, Repr

/-- What comes of each event of a history, and the status in the end. -/
def replay (s : Status) : List String → List Reaction × Status
  | [] => ([], s)
  | name :: rest =>
    match Event.ofName? name with
    | none =>
      let (rs, last) := replay s rest
      (.unknownEvent :: rs, last)
    | some e =>
      match s.apply e with
      | none =>
        let (rs, last) := replay s rest
        (.notAllowed :: rs, last)
      | some t =>
        let (rs, last) := replay t rest
        (.moved t :: rs, last)

end ImportTracking.Tracker.Status
