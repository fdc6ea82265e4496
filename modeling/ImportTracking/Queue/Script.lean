import ImportTracking.Queue

/-!
# Queue — scripts

Scripts of what happens to a queue of jobs, with what comes of each step.
-/

namespace ImportTracking.Queue

variable {α : Type}

/-- A step. -/
inductive Step (α : Type := Job) where
  /-- Sends a job; without room for it the sender gives up. -/
  | send (job : α) (delay : Duration)
  /-- Sends a job without delay; without room for it the sender waits in line. -/
  | enter (job : α)
  /-- The sender in a place of the line gives up. -/
  | leave (place : Nat)
  | sleep (by_ : Duration)
  /-- Receives up to so many jobs, or all there are. -/
  | receive (max : Option Nat)
  | close
deriving DecidableEq, Repr

/-- What comes of a step. -/
inductive Answer (α : Type := Job) where
  | sent (receipt : Receipt)
  | received (jobs : List α)
  /-- There is nothing to be told, or not yet. -/
  | nothing
deriving DecidableEq, Repr

/-- What a sender that waits in line is told at once. -/
def admission (q : Queue α) : Answer α :=
  if !q.isOpen then .sent .closed else if q.hasRoom then .sent .accepted else .nothing

/-- Makes a step. -/
def step (q : Queue α) : Step α → Answer α × Queue α
  | .send job delay =>
    let r := q.send job delay
    (.sent r.1, r.2)
  | .enter job => (q.admission, q.enter job)
  | .leave place => (.nothing, q.leave place)
  | .sleep d => (.nothing, q.sleep d)
  | .receive max =>
    let r := q.receive max
    (.received r.1, r.2)
  | .close => (.nothing, q.close)

/-- Makes the steps one after another. -/
def run : List (Step α) → Queue α → List (Answer α)
  | [], _ => []
  | s :: rest, q => (q.step s).1 :: run rest (q.step s).2

end ImportTracking.Queue
