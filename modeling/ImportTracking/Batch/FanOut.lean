import ImportTracking.Work
import ImportTracking.Word

/-!
# Batch — fanning out

A batched pipeline gets a row and a job for every batch, in the order of their numbers.  A row
that is there already is used as it is, so that a fan-out that stopped half-way can be repeated;
the same holds for a row that another worker inserts in between.
-/

namespace ImportTracking.Batch

/-- The largest number of batches. -/
def maxCount : Nat := Word.maxSigned32

/-- The batch of a number, which is inserted if it is not there. -/
def findOrCreate (trackerId number : Int) : Session.Task Batch := do
  match ← Session.query (.findBatch trackerId number) with
  | some batch => return batch
  | none =>
    let now ← (Session.now : Program Session Timestamp)
    match ← (Session.tryQuery (.insertBatch trackerId number Status.created.name now) :
        Program Session _) with
    | .ok batch => return batch
    | .error e =>
      if e.isUniqueViolation then
        match ← Session.query (.findBatch trackerId number) with
        | some batch => return batch
        | none => throw (.database e)
      else throw (.database e)

/-- Finds or creates and schedules the batches from `number` on, `count` of them. -/
def enqueueFrom (trackerId : Int) : (count : Nat) → (number : Nat) → Work.Task (List Batch)
  | 0, _ => return []
  | count + 1, number => do
    let batch ← Work.onDatabase (findOrCreate trackerId number)
    Work.expect .scheduling (Work.request (.scheduleBatch batch.id))
    let rest ← enqueueFrom trackerId count (number + 1)
    return batch :: rest

/-- Finds or creates the batches 1 to `count` of a tracker and schedules a job for each. -/
def enqueueAll (t : Tracker) (count : Nat) : Work.Task (List Batch) :=
  if count ≤ maxCount then enqueueFrom t.id count 1
  else
    throw (.pipeline (.sourceFailed ("Batch count " ++ toString count ++ " out of range")))

end ImportTracking.Batch
